import Ferminux.Relayer.AttestSafety
import Mathlib.Logic.Equiv.List

/-!
# Relayer.AttestSigning

The validator against the invariant of `Relayer.Attest`, and the results: **every
signature is over a transfer that was really reported**, in every run that meets the
condition, and a run of the program in which a transfer is signed whose row became confirmed
while it was anchored to a block that no endpoint without fault ever reported.

The validator works on one row at a time. The row stays as it was read (`At`), since the
watchers write `seen` rows only, and what the validator writes leaves the other rows that
are not `seen` (`Left`).
-/

namespace Ferminux.Relayer

open Lib Lib.Runtime List Option Lib.Task

variable {status : TransferStatus} {transferId : String}

namespace Node

variable {V : ValidatorConfig} {w w' w'' : World Attests} {t : StoredTransfer}
  {role : Job → Prog Unit} (hw : AttestInv V w.store w.ext)

/-! ### Writing one row -/

/-- The rows of other transfers that are not `seen`. -/
def Unseen (transferId : String) (r : StoredTransfer) : Prop :=
  r.status ≠ .seen ∧ r.transferId ≠ transferId

structure Left (V : ValidatorConfig) (transferId : String) (w w' : World Attests) : Prop where
  inv : AttestInv V w'.store w'.ext
  keeps : Keeps (Unseen transferId) w w'

include hw in
lemma Left.refl : Left V transferId w w := ⟨hw, Keeps.refl _ w⟩

lemma Left.trans (h : Left V transferId w w')
    (h' : Left V transferId w' w'') : Left V transferId w w'' :=
  ⟨h'.inv, h.keeps.trans h'.keeps⟩

/-- What the validator relies on leaves all rows that are not `seen`. -/
lemma left_of_rely (h : (attestDiscipline V).rely .role w w' ∧ (attestDiscipline V).Inv w') :
    Left V transferId w w' := by
  have hkeeps : Keeps (fun r => r.status ≠ .seen) w w' := h.1
  exact ⟨h.2, hkeeps.mono fun _ hr => hr.1⟩

lemma At.rely (h : At status w t) (hstatus : status ≠ .seen)
    (hrely : (attestDiscipline V).rely .role w w') : At status w' t := by
  have hkeeps : Keeps (fun r => r.status ≠ .seen) w w' := hrely
  refine ⟨hkeeps.rows h.1 ?_, h.2⟩
  rw [h.2]
  exact hstatus

/-- The statuses of the rows that the validator works on. -/
def Workable (status : TransferStatus) : Prop :=
  status = .confirmed ∨ status = .signed ∨ status = .rejected

lemma Workable.ne (h : Workable status) :
    status ≠ .seen ∧ status ≠ .orphaned ∧ status ≠ .executed := by
  rcases h with rfl | rfl | rfl <;> decide

include hw in
/-- **A write of one row** that says the same about its transfer. -/
theorem safe_rewrite {m : Mutation} {row : Nat → StoredTransfer}
    (hat : At status w t) (hstatus : Workable status)
    (hget : ∀ {now st'}, w.store.mutate V.node.host now m = .ok st' → ∀ id,
      st'.getTransfer id = if id = t.transferId then some (row now) else w.store.getTransfer id)
    (hsame : ∀ now, SameTransfer t (row now))
    (hnoted : ∀ (x : Attests) st now a, x.observe st now (.write m) (.ok a) = x ∨
      x.observe st now (.write m) (.ok a) = { x with ended := t.transferId :: x.ended } ∧
        Ended (row now)) : AttestSafe V role .role (write m)
      (fun _ w' => Left V t.transferId w w') w := by
  refine safe_mutation hw rfl (fun _ => Left.refl hw) fun now _ st a _ hst => ?_
  have hrow := hw.rows hat.1
  have hne := hstatus.ne
  rw [← hat.2] at hne
  obtain ⟨hbacks, hconfirmed⟩ := hrow.backed hne.1 hne.2.1
  have hs := hsame now
  have hupdated : AttestInv V st w.ext := by
    refine hw.update (hget hst) (fun r hr => not_ended_of_at hat hstatus.ne.2 hr) ?_
    refine ⟨hs.transferId, ?_, ?_, fun _ _ => ⟨hbacks.same hs, ?_⟩⟩
    · rw [hs.transfer]
      exact hrow.form
    · rw [hs.transfer, hs.transferId]
      exact hrow.hash
    · rw [hs.transfer, hs.transferId]
      exact hconfirmed
  -- behind the write, the transfer may be noted as ended
  have hnotes : AttestInv V st (w.ext.observe w.store now (.write m) (.ok a)) ∧
      Grows w.ext (w.ext.observe w.store now (.write m) (.ok a)) := by
    rcases hnoted w.ext w.store now a with heq | ⟨heq, hended⟩
    · rw [heq]
      exact ⟨hupdated, Grows.refl _⟩
    · rw [heq]
      exact hupdated.ends ((hget hst _).trans (if_pos rfl)) hended
  obtain ⟨hinv, hgrows⟩ := hnotes
  refine ⟨hinv, keeps_of_update (hget hst) hat.1 hne.1 hgrows, hinv,
    keeps_of_update (hget hst) hat.1 (fun hr => hr.2 rfl) hgrows⟩

include hw in
lemma safe_setStatus {status' : TransferStatus}
    (hat : At status w t) (hstatus : Workable status) (hstatus' : status' ≠ .orphaned)
    (reason : Option String) :
    AttestSafe V role .role (write (.setTransferStatus t.transferId status' reason))
      (fun _ => Left V t.transferId w) w := by
  refine safe_rewrite hw hat hstatus (fun hst => getTransfer_setStatus hst hat.1)
    (fun _ => ⟨rfl, rfl, rfl, rfl⟩) fun x st now a => .inl ?_
  cases status' with
  | orphaned => exact absurd rfl hstatus'
  | _ => rfl

include hw in
lemma safe_markExecuted (hat : At status w t) (hstatus : Workable status) (txHash : Option String) :
    AttestSafe V role .role
      (write (.markExecuted t.transferId txHash)) (fun _ => Left V t.transferId w) w :=
  safe_rewrite hw hat hstatus (fun hst => getTransfer_markExecuted hst hat.1)
    (fun _ => ⟨rfl, rfl, rfl, rfl⟩) fun _ _ _ _ => .inr ⟨rfl, .inr rfl⟩

/-! ### Signing -/

lemma safe_still {α : Type} {task : Prog α} (huses : task.Uses still)
    (hw : AttestInv V w.store w.ext) (hat : At status w t) (hstatus : Workable status) :
    AttestSafe V role .role task (fun _ w' => Left V t.transferId w w' ∧ At status w' t) w :=
  ((quiet_still .role).safe huses hw).mono fun _ _ hw' =>
    ⟨left_of_rely hw', hat.rely hstatus.ne.1 hw'.1⟩

include hw in
/-- **A signature is stored** while the row is confirmed. -/
theorem safe_putOwnSignature (hat : At .confirmed w t)
    {sig : StoredSignature} (hkey : sig.transferId = t.transferId) (hsigner : sig.signer = V.address)
    (hrecovers : ∃ dst digest, V.node.chains t.transfer.dstChainId = some dst ∧
      V.node.host.ethers.digestFor t.transfer dst.bridgeAddress = .ok digest ∧
        V.recoverSigner digest sig.signature = .ok V.address) :
    AttestSafe V role .role (ask (.putOwnSignature t sig))
      (fun _ w' => Left V t.transferId w w' ∧ At .confirmed w' t) w := by
  refine safe_mutation hw rfl (fun _ => ⟨Left.refl hw, hat⟩) fun _ _ st _ _ hst => ?_
  have hget : ∀ id, st.getTransfer id = w.store.getTransfer id := by
    intro id
    rw [Store.getTransfer, Store.transfers_mutate (by simp) hst]
    rfl
  have hlate : t.transferId ∉ w.ext.ended := by
    intro hmem
    obtain ⟨r, hr, hended⟩ := hw.ended _ hmem
    exact not_ended_of_at hat (by decide) hr hended
  have hrow := hw.rows hat.1
  have hne : t.status ≠ .seen ∧ t.status ≠ .orphaned := by
    rw [hat.2]
    decide
  have hsound : Sealed.Sound V w.ext
      { row := t, sig, late := decide (t.transferId ∈ w.ext.ended) } :=
    ⟨hkey, hsigner, hrecovers, (hrow.backed hne.1 hne.2).2, decide_eq_false hlate⟩
  let x : Attests := { w.ext with
    seals := { row := t, sig, late := decide (t.transferId ∈ w.ext.ended) } :: w.ext.seals }
  have hgrows : Grows w.ext x := ⟨fun _ hp => hp, fun _ hk => hk, fun _ _ hi => hi⟩
  have hinv : AttestInv V st x := by
    refine (hw.grow hgrows (fun _ hk => .inl hk) (fun _ hid => .inl hid) hw.liars
      fun s hs => ?_).same hget
    rcases mem_cons.mp hs with rfl | hs
    · exact .inr (hsound.grows hgrows)
    · exact .inl hs
  have hkeeps : ∀ p, Keeps p w { w with store := st, ext := x } := fun p =>
    ⟨fun {id r} hr _ => (hget id).trans hr, hgrows⟩
  exact ⟨hinv, hkeeps _, ⟨hinv, hkeeps _⟩, (hget _).trans hat.1, hat.2⟩

include hw in
lemma safe_reject (hat : At .confirmed w t) (consumed : ConsumedCapacity) (reason : String) :
    AttestSafe V role .role (do
        releaseCapacity consumed
        write (.setTransferStatus t.transferId .rejected (some reason)))
      (fun _ => Left V t.transferId w) w := by
  have hrelease : (releaseCapacity consumed).Uses still := uses_releaseCapacity.within
  refine (safe_still hrelease hw hat (.inl rfl)).bind_ok (fun _ _ hw1 => hw1.1) fun _ w1 hw1 => ?_
  exact (safe_setStatus hw1.1.inv hw1.2 (.inl rfl) (by decide) _).mono fun _ _ hw2 =>
    hw1.1.trans hw2

lemma safe_signAndStore {dst : ChainConfig}
    (hdst : V.node.chains t.transfer.dstChainId = some dst) (hw : AttestInv V w.store w.ext)
    (hat : At .confirmed w t) (digest : String) (consumed : ConsumedCapacity) :
    AttestSafe V role .role
      (signAndStore V dst t digest consumed) (fun _ => Left V t.transferId w) w := by
  have hstill : ∀ {e : Effect} {w1 : World Attests}, still e → AttestInv V w1.store w1.ext →
      At .confirmed w1 t →
      AttestSafe V role .role (ask e)
        (fun _ w' => Left V t.transferId w1 w' ∧ At .confirmed w' t) w1 := fun he hw1 hat1 =>
    safe_still (uses_call.mpr he) hw1 hat1 (.inl rfl)
  refine safe_bind.mpr (safe_lift.mpr ?_)
  cases hagain : V.node.host.ethers.digestFor t.transfer dst.bridgeAddress with
  | error => exact Left.refl hw
  | ok again =>
  refine (hstill (by trivial) hw hat).bind_ok (fun _ _ hw1 => hw1.1) fun signature w1 hw1 => ?_
  obtain ⟨hleft1, hat1⟩ := hw1
  refine safe_bind.mpr (safe_lift.mpr ?_)
  cases hrecover : V.recoverSigner digest signature with
  | error => exact hleft1
  | ok recovered =>
  refine safe_ite.mpr ⟨fun _ => ?_, fun hsigner => ?_⟩
  · exact (safe_reject hleft1.inv hat1 consumed _).mono fun _ _ hw2 => hleft1.trans hw2
  refine safe_bind.mpr (safe_lift.mpr ?_)
  refine safe_ite.mpr ⟨fun _ => ?_, fun hdigest => ?_⟩
  · exact (safe_reject hleft1.inv hat1 consumed _).mono fun _ _ hw2 => hleft1.trans hw2
  refine (hstill (by trivial) hleft1.inv hat1).bind_ok (fun _ _ hw2 => hleft1.trans hw2.1)
    fun time w2 hw2 => ?_
  have hleft2 := hleft1.trans hw2.1
  have hrecovers : ∃ dst digest, V.node.chains t.transfer.dstChainId = some dst ∧
      V.node.host.ethers.digestFor t.transfer dst.bridgeAddress = .ok digest ∧
        V.recoverSigner digest signature = .ok V.address := by
    rw [not_not] at hsigner hdigest
    subst hsigner hdigest
    exact ⟨dst, again, hdst, hagain, hrecover⟩
  refine (safe_putOwnSignature hleft2.inv hw2.2 rfl rfl hrecovers).bind_ok
    (fun _ _ hw3 => hleft2.trans hw3.1) fun _ w3 hw3 => ?_
  have hleft3 := hleft2.trans hw3.1
  refine (safe_setStatus hleft3.inv hw3.2 (.inl rfl) (by decide) _).bind_ok
    (fun _ _ hw4 => hleft3.trans hw4) fun _ w4 hw4 => ?_
  have hleft4 := hleft3.trans hw4
  refine safe_ite.mpr ⟨fun _ => ?_, fun _ => hleft4⟩
  have hpublish : (ask (.publish t signature)).Uses still := .one trivial
  exact ((quiet_still .role).safe hpublish hleft4.inv).mono fun _ _ hw5 =>
    hleft4.trans (left_of_rely hw5)

include hw in
lemma safe_sign (hat : At .confirmed w t) (digest : String) (consumed : ConsumedCapacity) :
    AttestSafe V role .role
      (sign V t digest consumed) (fun _ => Left V t.transferId w) w := by
  have hrelease : (releaseCapacity consumed).Uses still := uses_releaseCapacity.within
  have hquiet : ∀ {w1 : World Attests}, AttestInv V w1.store w1.ext → AttestSafe V role .role
        (releaseCapacity consumed) (fun _ => Left V t.transferId w1) w1 := fun hw1 =>
    ((quiet_still .role).safe hrelease hw1).mono fun _ _ hw2 => left_of_rely hw2
  unfold sign
  cases hdst : V.node.chains t.transfer.dstChainId with
  | none => exact hquiet hw
  | some =>
    refine safe_tryCatch.mpr
      ((safe_signAndStore hdst hw hat digest consumed).mono fun r w1 hw1 => ?_)
    cases r with
    | ok => exact hw1
    | error =>
      refine (hquiet hw1.inv).bind fun r w2 hw2 => ?_
      cases r <;> exact hw1.trans hw2

include hw in
/-- `consider` changes no row but its own. -/
theorem safe_consider (hat : At .confirmed w t) :
    AttestSafe V role .role (consider V t) (fun _ w' => Left V t.transferId w w') w := by
  have hsignatures : (ask (.getSignatures t.transferId)).Uses still := .one trivial
  refine (safe_still hsignatures hw hat (.inl rfl)).bind_ok (fun _ _ hw1 => hw1.1)
    fun signatures w1 hw1 => ?_
  obtain ⟨hleft1, hat1⟩ := hw1
  refine safe_ite.mpr ⟨fun _ => safe_ite.mpr ⟨fun _ => ?_, fun _ => hleft1⟩, fun _ => ?_⟩
  · exact (safe_setStatus hleft1.inv hat1 (.inl rfl) (by decide) _).mono fun _ _ hw2 =>
      hleft1.trans hw2
  have hverify : (verifyForSigning V t).Uses still := uses_verifyForSigning.within
  refine (safe_still hverify hleft1.inv hat1 (.inl rfl)).bind_ok (fun _ _ hw2 => hleft1.trans hw2.1)
    fun result w2 hw2 => ?_
  obtain ⟨hleft2, hat2⟩ := hw2
  have hleft := hleft1.trans hleft2
  cases result with
  | alreadyProcessed =>
    exact (safe_markExecuted hleft.inv hat2 (.inl rfl) none).mono fun _ _ hw3 => hleft.trans hw3
  | refused =>
    refine safe_guard hleft fun _ => ?_
    exact (safe_setStatus hleft.inv hat2 (.inl rfl) (by decide) _).mono fun _ _ hw3 =>
      hleft.trans hw3
  | passed digest consumed =>
    exact (safe_sign hleft.inv hat2 digest consumed).mono fun _ _ hw3 => hleft.trans hw3

/-! ### Ticks -/

/-- A loop over rows, each of which is as it was listed when its turn comes. -/
theorem safe_eachRow {p : StoredTransfer → Prop}
    {body : StoredTransfer → Prog Unit} (hstatus : Workable status)
    (hbody : ∀ {t w}, AttestInv V w.store w.ext → At status w t → AttestSafe V role .role (body t)
        (fun _ w' => Left V t.transferId w w') w)
    {rows : List StoredTransfer} (h : Pending V status p rows w) :
    AttestSafe V role .role (Task.each rows body) (AttestKept V) w := by
  refine safe_each (P := Pending V status p) h (fun t rest w1 hw1 => ?_) fun _ hw1 => hw1.inv
  refine (hbody hw1.inv (hw1.rows t mem_cons_self).1).mono fun r w2 hw2 => ?_
  cases r with
  | error => exact hw2.inv
  | ok _ =>
    refine hw1.next (fun r _ hr hne => ⟨?_, hne⟩) hw2.inv hw2.keeps
    rw [hr]
    exact hstatus.ne.1

include hw in
lemma safe_reconcile (hat : At .signed w t) :
    AttestSafe V role .role (reconcile V t) (fun _ => Left V t.transferId w) w := by
  have hworkable : Workable .signed := .inr (.inl rfl)
  have hstill : ∀ {e : Effect} {w1 : World Attests}, still e → AttestInv V w1.store w1.ext →
      At .signed w1 t →
      AttestSafe V role .role (ask e)
        (fun _ w' => Left V t.transferId w1 w' ∧ At .signed w' t) w1 := fun he hw1 hat1 =>
    safe_still (uses_call.mpr he) hw1 hat1 hworkable
  unfold reconcile
  cases V.node.chains t.transfer.dstChainId with
  | none => exact Left.refl hw
  | some dst =>
  have hhealthy : (healthyEndpoints t.transfer.dstChainId).Uses still :=
    (uses_healthyEndpoints _).within
  have hrequire : (requireEndpoint dst t.transfer.dstChainId).Uses still :=
    (uses_requireEndpoint dst _).within
  refine (safe_still hhealthy hw hat hworkable).bind_ok (fun _ _ hw1 => hw1.1)
    fun healthy w1 hw1 => ?_
  obtain ⟨hleft1, hat1⟩ := hw1
  refine safe_guard hleft1 fun _ => ?_
  refine safe_tryCatch.mpr ((safe_still hrequire hleft1.inv hat1 hworkable).bind fun r w2 hw2 => ?_)
  have hleft2 := hleft1.trans hw2.1
  cases r with
  | error => exact hleft2
  | ok _ =>
  refine (hstill (by trivial) hleft2.inv hw2.2).bind_ok (fun _ _ hw3 => hleft2.trans hw3.1)
    fun processed w3 hw3 => ?_
  have hleft3 := hleft2.trans hw3.1
  refine safe_ite.mpr ⟨fun _ => ?_, fun _ => hleft3⟩
  refine (safe_markExecuted hleft3.inv hw3.2 hworkable none).mono fun r w4 hw4 => ?_
  cases r <;> exact hleft3.trans hw4

include hw in
lemma safe_revisitOne (hat : At .rejected w t) (caps : Caps) :
    AttestSafe V role .role (revisitOne V t caps) (fun _ => Left V t.transferId w) w := by
  have hworkable : Workable .rejected := .inr (.inr rfl)
  unfold revisitOne
  cases V.node.chains t.transfer.dstChainId with
  | none => exact Left.refl hw
  | some dst =>
  have hhealthy : (healthyEndpoints t.transfer.dstChainId).Uses still :=
    (uses_healthyEndpoints _).within
  have hcap : (capOf dst t.transfer caps).Uses still := (uses_capOf _).within
  refine (safe_still hhealthy hw hat hworkable).bind_ok (fun _ _ hw1 => hw1.1)
    fun healthy w1 hw1 => ?_
  obtain ⟨hleft1, hat1⟩ := hw1
  refine safe_guard hleft1 fun _ => ?_
  refine (safe_still hcap hleft1.inv hat1 hworkable).bind_ok (fun _ _ hw2 => hleft1.trans hw2.1)
    fun read w2 hw2 => ?_
  have hleft2 := hleft1.trans hw2.1
  refine safe_ite.mpr ⟨fun _ => ?_, fun _ => hleft2⟩
  refine (safe_setStatus hleft2.inv hw2.2 hworkable (by decide) none).bind fun r w3 hw3 => ?_
  cases r <;> exact hleft2.trans hw3

lemma safe_revisitAll {p : StoredTransfer → Prop} {rows : List StoredTransfer} (caps : Caps)
    (h : Pending V .rejected p rows w) : AttestSafe V role .role (revisitAll V rows caps)
      (AttestKept V) w := by
  induction rows generalizing w caps with
  | nil => exact h.inv
  | cons t rest ih =>
    have hat := (h.rows t mem_cons_self).1
    refine (safe_revisitOne h.inv hat caps).bind_ok (fun _ _ hw1 => hw1.inv) fun caps' w1 hw1 => ?_
    refine ih caps' (h.next (fun r _ hr hne => ⟨?_, hne⟩) hw1.inv hw1.keeps)
    rw [hr]
    decide

include hw in
lemma safe_revisit : AttestSafe V role .role (revisit V) (AttestKept V) w := by
  have hstill : ∀ {e : Effect} {w1 : World Attests}, still e → AttestInv V w1.store w1.ext →
      AttestSafe V role .role (ask e)
        (AttestKept V) w1 := fun he hw1 =>
    ((quiet_still .role).safe (uses_call.mpr he) hw1).mono fun _ _ hw2 => hw2.2
  refine (hstill (by trivial) hw).bind_ok (fun _ _ hw1 => hw1) fun time w1 hw1 => ?_
  refine (hstill (by trivial) hw1).bind_ok (fun _ _ hw2 => hw2) fun recheckedAt w2 hw2 => ?_
  refine safe_ite.mpr ⟨fun _ => ?_, fun _ => hw2⟩
  refine (hstill (by trivial) hw2).bind_ok (fun _ _ hw3 => hw3) fun again w3 hw3 => ?_
  refine (hstill (by trivial) hw3).bind_ok (fun _ _ hw4 => hw4) fun _ w4 hw4 => ?_
  refine (safe_list .role hw4 _).bind_ok (fun _ _ hw5 => hw5) fun rows w5 hw5 => ?_
  obtain ⟨rfl, rfl⟩ := hw5
  exact safe_revisitAll [] (pending_of_list hw4
    { status := some [.rejected], reasonPrefix := some OVER_CONTRACT_CAP_PREFIX
      limit := some 1000 } rfl)

include hw in
lemma safe_tick : AttestSafe V role .role (tick V) (AttestKept V) w := by
  refine (safe_revisit hw).bind_ok (fun _ _ hw1 => hw1) fun _ w1 hw1 => ?_
  refine (safe_list .role hw1 _).bind_ok (fun _ _ hw2 => hw2) fun confirmed w2 hw2 => ?_
  obtain ⟨rfl, rfl⟩ := hw2
  have hconfirmed := pending_of_list hw1 { status := some [.confirmed], limit := some 200 } rfl
  refine (safe_eachRow (.inl rfl) safe_consider hconfirmed).bind_ok (fun _ _ hw3 => hw3)
    fun _ w3 hw3 => ?_
  refine (safe_list .role hw3 _).bind_ok (fun _ _ hw4 => hw4) fun signed w4 hw4 => ?_
  obtain ⟨rfl, rfl⟩ := hw4
  have hsigned := pending_of_list hw3 { status := some [.signed], limit := some 200 } rfl
  exact safe_eachRow (.inr (.inl rfl)) safe_reconcile hsigned

include hw in
lemma safe_onConfirmed (transferId : String) : AttestSafe V role .role
      (onConfirmed V transferId) (AttestKept V) w := by
  refine safe_bind.mpr (safe_sync relies_attest rfl hw fun now reply hok => ?_)
  obtain ⟨hinv, hkeeps⟩ := perform_still (e := .getTransfer transferId) (by trivial) hw hok
  refine ⟨hinv, hkeeps _, ?_⟩
  cases hr : reply (.getTransfer transferId) with
  | error => exact hw
  | ok a =>
    have hperform : w.perform V.node (attests V.node) now (.getTransfer transferId) (.ok a) =
        (.ok (w.store.getTransfer transferId), w) := rfl
    rw [hperform]
    cases hrow : w.store.getTransfer transferId with
    | none => exact hw
    | some row =>
      refine safe_ite.mpr ⟨fun hstatus => ?_, fun _ => hw⟩
      have hat : At .confirmed w row := by
        refine ⟨?_, hstatus⟩
        rw [(hw.rows hrow).key]
        exact hrow
      exact (safe_consider hw hat).mono fun _ _ hw2 => hw2.inv

/-! ### Runs -/

lemma sound_attest (hE : V.node.host.ethers.Sane) :
    Sound (runtime V.node (attests V.node) (validatorRole V)) (attestDiscipline V) where
  toRelies := relies_attest
  guar {i j w w'} hne hguar := by
    cases i with
    | role =>
      have hkeeps : Keeps (fun r => r.status = .seen) w w' := hguar
      cases j with
      | role => exact absurd rfl hne
      | watcher => exact hkeeps.mono fun _ hr => hr.1
    | watcher own =>
      have hkeeps : Keeps (fun r => ¬ SeenOf own r) w w' := hguar
      cases j with
      | role => exact hkeeps.mono fun _ hr hseen => hr hseen.1
      | watcher =>
        refine hkeeps.mono fun r hr hown => hne ?_
        rw [← hown.2, ← hr.2]
  drift {w o w'} hw hdrift := by
    cases o with
    | answer => cases hdrift
    | move d =>
      obtain ⟨x, hx, rfl⟩ := map_eq_some_iff.mp hdrift
      change w.ext.fault V.node d = some x at hx
      unfold Attests.fault at hx
      split at hx
      · cases hx
        have hgrows : Grows w.ext
            { w.ext with faulty := Function.update w.ext.faulty d.chainId d.faulty } :=
          ⟨fun _ hp => hp, fun _ hk => hk, fun _ _ hi => hi⟩
        refine ⟨hw.grow hgrows (fun _ hk => .inl hk) (fun _ hid => .inl hid) hw.liars
          fun _ hs => .inl hs, fun i => ?_⟩
        cases i with
        | role | watcher => exact ⟨fun hr _ => hr, hgrows⟩
      · cases hx
  reboot hw := hw
  task i job w hw := by
    refine safe_taskOf (fun job => ?_) fun _ _ hchain =>
      (safe_poll_attest hE hchain hw).mono fun _ _ _ => trivial
    cases job with
    | poll => trivial
    | tick =>
      refine safe_tryCatch.mpr ((safe_tick hw).mono fun r w' _ => ?_)
      cases r <;> trivial
    | confirmed transferId =>
      refine safe_tryCatch.mpr ((safe_onConfirmed hw transferId).mono fun r w' _ => ?_)
      cases r <;> trivial

lemma attestInv_of_fresh {start : World Attests} (h : FreshAttests V.node start) :
    AttestInv V start.store start.ext := by
  obtain ⟨hstore, ⟨faulty, hext⟩, -⟩ := h
  have hnone : ∀ id, start.store.getTransfer id = none := by
    intro id
    rcases hstore with hstore | hstore <;> rw [hstore] <;> rfl
  rw [hext]
  refine ⟨fun {id r} hr => ?_, fun k hk => ?_, fun id hid => ?_,
    fun _ => ⟨nodup_nil, .inl rfl⟩, fun s hs => ?_⟩
  · cases (hnone id).symm.trans hr
  · exact absurd hk not_mem_nil
  · exact absurd hid not_mem_nil
  · exact absurd hs not_mem_nil

/-- **A validator signs real transfers.** Fewer than `minAgreeingEndpoints` endpoints of a chain
answer log reads while they are faulty, watchers record transfers from their own chains, and
restarts lose no write. Then a signature that is stored is over the digest of a transfer that had
become confirmed and was neither orphaned nor executed, and some endpoint that was not faulty
reported that transfer in the block that its row was anchored to when it became confirmed. -/
theorem signatures_sound (hE : V.node.host.ethers.Sane) {start : World Attests}
    (hstart : FreshAttests V.node start) {c : Config Thread Answer (World Attests × Option Store)}
    (hc : (restarting V.node (attests V.node) (validatorRole V)).Reach
      (Losing Durable (Sourced V.node)) (start, none) c)
    {s : Sealed} (hs : s ∈ c.world.1.ext.seals) :
    s.Sound V c.world.1.ext ∧ ∀ k ∈ c.world.1.ext.confirmed, k.transferId = s.row.transferId →
        c.world.1.ext.Backs V.node.host.ethers k := by
  have hsound : Sound (restarting V.node (attests V.node) (validatorRole V))
      ((attestDiscipline V).lossy Durable) := (sound_attest hE).lossy rfl nofun
  have hinv := (hsound.inv ⟨attestInv_of_fresh hstart, rfl⟩ hc).1
  exact ⟨hinv.seals s hs, fun k hk _ => hinv.confirmed k hk⟩

/-! A hash without collisions: the preimages that a run meets get short names, and the others
get long ones. -/

def charCodes (s : String) : List Nat := s.toList.map Char.toNat

def transferCodes (t : BridgeTransfer) : List (List Nat) :=
  [[t.srcChainId], [t.dstChainId], [t.nonce], charCodes t.srcToken, charCodes t.dstToken,
    charCodes t.sender, charCodes t.recipient, [t.amount]]

def preimageCodes : Preimage → List (List Nat)
  | .transfer t => transferCodes t
  | .domain name version chainId verifyingContract =>
    [charCodes name, charCodes version, [chainId], charCodes verifyingContract]
  | .typedData name version chainId verifyingContract transferId t =>
    [charCodes name, charCodes version, [chainId], charCodes verifyingContract,
      charCodes transferId] ++ transferCodes t

lemma charCodes_injective : Function.Injective charCodes := by
  intro s s' h
  exact String.toList_inj.mp (map_injective_iff.mpr (fun a b hab => Char.toNat_inj.mp hab) h)

lemma transferCodes_injective : Function.Injective transferCodes := by
  intro t t' h
  cases t
  cases t'
  simpa [transferCodes, charCodes_injective.eq_iff] using h

lemma preimageCodes_injective : Function.Injective preimageCodes := by
  intro p p' h
  -- the kinds of preimages differ in how many fields they have
  have hlength := congrArg List.length h
  cases p with
  | transfer =>
    cases p' with
    | transfer => exact congrArg _ (transferCodes_injective h)
    | domain | typedData => simp [preimageCodes, transferCodes] at hlength
  | domain =>
    cases p' with
    | domain => simpa [preimageCodes, charCodes_injective.eq_iff] using h
    | transfer | typedData => simp [preimageCodes, transferCodes] at hlength
  | typedData =>
    cases p' with
    | typedData =>
      simpa [preimageCodes, charCodes_injective.eq_iff, transferCodes_injective.eq_iff] using h
    | transfer | domain => simp [preimageCodes, transferCodes] at hlength

def preimageNumber (short : List Preimage) (p : Preimage) : Nat :=
  if p ∈ short then short.idxOf p else short.length + Encodable.encode (preimageCodes p)

def nameOf (short : List Preimage) (p : Preimage) : String :=
  "0x" ++ String.ofList (List.replicate (preimageNumber short p) 'a')

lemma preimageNumber_injective (short : List Preimage) :
    Function.Injective (preimageNumber short) := by
  intro p p' h
  unfold preimageNumber at h
  split at h
  · next hp =>
    split at h
    · next hp' => exact (idxOf_inj hp).mp h
    · have := idxOf_lt_length_of_mem hp
      omega
  · split at h
    · next hp' =>
      have := idxOf_lt_length_of_mem hp'
      omega
    · exact preimageCodes_injective (Encodable.encode_injective (by omega))

lemma nameOf_injective {short : List Preimage} {p p' : Preimage}
    (h : (nameOf short p).toLower = (nameOf short p').toLower) : p = p' := by
  have hlower : ∀ name : String, name.toLower.length = name.length := fun _ => String.length_map
  have hlength := congrArg String.length h
  simp only [hlower, nameOf, String.length_append, String.length_ofList, length_replicate]
    at hlength
  exact preimageNumber_injective short (by omega)

/-- The log of a transfer from the chain 1 whose id has a short name. -/
def attestLog (blockNumber : Nat) (blockHash : String) : Log :=
  { sampleLog blockNumber blockHash with transferId := "0x" }

def attestEthers : Ethers :=
  let t := (attestLog 0 "").payload
  { getAddress := .ok
    keccak256 := nameOf [.transfer t, .domain EIP712_DOMAIN_NAME EIP712_DOMAIN_VERSION 10 "0xb",
      .typedData EIP712_DOMAIN_NAME EIP712_DOMAIN_VERSION 10 "0xb" "0x" t] }

lemma sane_attestEthers : attestEthers.Sane where
  idempotent _ := rfl
  injective h := Preimage.transfer.inj (nameOf_injective h)

/-- Three chains with two endpoints each, which must agree. -/
def attestConfig : ValidatorConfig :=
  { node := sampleNode [1, 2, 10] (sampleChain ["a", "b"] 1 2) attestEthers
    address := "0xf", maxTransferAgeMs := 0, sharedDir := false
    recoverSigner := fun digest signature =>
      if signature = "signed " ++ digest then .ok "0xf" else .error "invalid signature" }

def attestStart (faulty : Nat → List Nat) : World Attests :=
  { store := .sqlite {}, health := initialHealth attestConfig.node, ext := { faulty } }

/-- The chain 1 has the log in its first block. An endpoint of the chain 2 shows it, too. The
destination would take the transfer. -/
def attestReply : (e : Effect) → Except String (Answer e)
  | .blockNumber chainId _ => .ok (if chainId = 1 then 2 else 8)
  | .getLogs 1 _ fromBlock toBlock =>
    .ok (if fromBlock ≤ 1 ∧ 1 ≤ toBlock then [attestLog 1 "0xb1"] else [])
  | .getLogs 2 _ fromBlock toBlock =>
    .ok (if fromBlock ≤ 7 ∧ 7 ≤ toBlock then [attestLog 7 "0xb7"] else [])
  | .tokenConfig _ _ _ =>
    .ok { kind := 1, paused := false, remoteChainId := 1, remoteToken := "0xa"
          maxPerTransfer := 100 }
  | .domainSeparator _ => .ok "0xa"
  | .hashTransfer _ _ => .ok "0xaa"
  | .signTypedData _ _ _ => .ok "signed 0xaa"
  | e => calm e

def faultyOn (chainId : Nat) : Nat → List Nat := fun other => if other = chainId then [0] else []

lemma fresh_attestStart (chainId : Nat) :
    FreshAttests attestConfig.node (attestStart (faultyOn chainId)) := by
  refine ⟨.inl rfl, ⟨_, rfl⟩, fun other => ?_⟩
  unfold fewerThanAgree attestConfig sampleNode
  by_cases hother : other ∈ [1, 2, 10]
  · simp only [hother, if_true, all_some, attestStart, faultyOn, sampleChain]
    split <;> simp
  · simp [hother, all_none]

/-- The watcher of the chain 1 performs `n` effects of a poll. -/
def firstPoll (n : Nat) : List (Move Thread Job (Choice Fault)) :=
  .start (.watcher 1) .poll :: answers (.watcher 1) n 0 attestReply

/-- An endpoint of the destination is probed, and the confirmed transfer is considered. -/
def signingMoves : List (Move Thread Job (Choice Fault)) :=
  .start (.watcher 10) .poll :: answers (.watcher 10) 3 0 attestReply ++
    .start .role (.confirmed "0x") :: answers .role 20 0 attestReply

/-- While the watcher of the chain 1 reads the log again, an endpoint of the chain 2 moves the
anchor of the row. The row becomes confirmed there, and is signed. No endpoint of the chain 1
was ever faulty. -/
theorem signed_off_anchor : ∃ c,
    attestEthers.Sane ∧ FreshAttests attestConfig.node (attestStart (faultyOn 2)) ∧
      (runtime attestConfig.node (attests attestConfig.node) (validatorRole attestConfig)).Reach
        Reporting (attestStart (faultyOn 2)) c ∧ c.world.ext.liars 1 = [] ∧
      ∃ s ∈ c.world.ext.seals, ∃ k ∈ c.world.ext.confirmed,
        k.transferId = s.row.transferId ∧ k.transfer.srcChainId = 1 ∧ k.srcBlockNumber = 7 ∧
          ¬ c.world.ext.Backs attestEthers k := by
  let c := ((runtime attestConfig.node (attests attestConfig.node) (validatorRole attestConfig)).run
    Reporting (attestStart (faultyOn 2))
    (firstPoll 26 ++ .start (.watcher 2) .poll :: answers (.watcher 2) 22 0 attestReply ++
      answers (.watcher 1) 3 0 attestReply ++ signingMoves)).get (by decide +kernel)
  have hrow : c.world.ext.liars 1 = [] ∧ ∃ s ∈ c.world.ext.seals, ∃ k ∈ c.world.ext.confirmed,
      k.transferId = s.row.transferId ∧ k.transfer.srcChainId = 1 ∧ k.srcBlockNumber = 7 := by
    decide +kernel
  have hreports : ∀ p ∈ c.world.ext.reports, p.log.blockNumber = 1 := by decide +kernel
  obtain ⟨hliars, s, hs, k, hk, hid, hsource, hblock⟩ := hrow
  refine ⟨c, sane_attestEthers, fresh_attestStart 2, reach_of_run _ (some_get _).symm,
    hliars, s, hs, k, hk, hid, hsource, hblock, ?_⟩
  rintro ⟨p, hp, hshows⟩
  have := hshows.block
  rw [hreports p hp, hblock] at this
  cases this

/-- The two endpoints are faulty one after the other, each when it is asked. A transfer is signed
that no endpoint reported. -/
lemma signed_unreported : ∃ c, FreshAttests attestConfig.node (attestStart (faultyOn 1)) ∧
      (runtime attestConfig.node (attests attestConfig.node) (validatorRole attestConfig)).Reach
        Reporting (attestStart (faultyOn 1)) c ∧
      c.world.ext.seals ≠ [] ∧ c.world.ext.reports = [] := by
  let c := ((runtime attestConfig.node (attests attestConfig.node) (validatorRole attestConfig)).run
    Reporting (attestStart (faultyOn 1))
    (firstPoll 26 ++ .drift (.move { chainId := 1, faulty := [1] }) ::
      answers (.watcher 1) 3 0 attestReply ++ signingMoves)).get (by decide +kernel)
  refine ⟨c, fresh_attestStart 1, reach_of_run _ (some_get _).symm, ?_⟩
  decide +kernel

/-- A transfer is signed, while an endpoint of another chain is faulty. -/
theorem signatures_sound_signed : ∃ c : Config Thread Answer (World Attests),
    ∃ s ∈ c.world.ext.seals, s.Sound attestConfig c.world.ext ∧
      ∀ k ∈ c.world.ext.confirmed, k.transferId = s.row.transferId →
        c.world.ext.Backs attestEthers k := by
  have hrun : ∃ c, (runtime attestConfig.node (attests attestConfig.node)
      (validatorRole attestConfig)).Reach (Sourced attestConfig.node) (attestStart (faultyOn 2)) c ∧
        ∃ s ∈ c.world.ext.seals, s.row.transferId = "0x" :=
    exists_reach _ (firstPoll 29 ++ signingMoves) (by decide +kernel)
  obtain ⟨c, hc, s, hs, -⟩ := hrun
  exact ⟨c, s, hs, signatures_sound sane_attestEthers (fresh_attestStart 2) (hc.lossy rfl) hs⟩

end Node

end Ferminux.Relayer
