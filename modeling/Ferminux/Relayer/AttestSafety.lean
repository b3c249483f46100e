import Ferminux.Relayer.Attest
import Mathlib.Data.List.Perm.Subperm

/-!
# Relayer.AttestSafety

The watchers against the invariant of `Relayer.Attest`, part by part. Parts that
change no row are dealt with at once, by the effects they perform (`still`). The **count of
the endpoints that agree** is bounded by the liars among them, unless one that is not faulty
has reported the log (`Counted`), and the row that is confirmed is still the one the endpoints
were asked about (`At`).
-/

namespace Ferminux.Relayer

open Lib Lib.Runtime Function List Store

variable {asked : List Nat} {status : TransferStatus} {e : Effect} {transferId : String}

variable {r : StoredTransfer} {now : Nat}

namespace Node

variable {V : ValidatorConfig} {x : Attests} {st : Store} {w w' w'' : World Attests}
  {chainId : Nat} {chain : ChainConfig} {endpoint : Nat} {st st' : Store}
  (hw : AttestInv V w.store w.ext) {ev : SentEvent} {H : Host}

/-! ### Parts that change no row -/

/-- The effects that change no row and store no signature. -/
def still : Effect → Prop
  | .record _ _ => False
  | .confirm _ _ => False
  | .putOwnSignature _ _ => False
  | .write (.putTransfer _) => False
  | .write (.setTransferStatus _ _ _) => False
  | .write (.markExecuted _ _) => False
  | _ => True

instance : Task.Within probing still := {}
instance : Task.Within rereading still := {}
instance : Task.Within verifying still := {}
instance : Task.Within checking still := {}

lemma getTransfer_still {N : NodeConfig} (he : still e) (now : Nat)
    (reply : Except String (Answer e)) (id : String) :
    (w.serve N now e reply).2.store.getTransfer id = w.store.getTransfer id := by
  rcases store_serve (N := N) w now e reply with hsame | ⟨m, hm, hst⟩
  · rw [hsame]
  · have htransfers : (w.serve N now e reply).2.store.transfers = w.store.transfers := by
      cases e with
      | write =>
        cases hm
        cases m with
        | putTransfer | setTransferStatus | markExecuted => exact he.elim
        | _ => exact transfers_mutate (by simp) hst
      | record | confirm | putOwnSignature => exact he.elim
      | _ => cases hm
    rw [getTransfer, getTransfer, htransfers]

lemma reported_inv (h : AttestInv V st x) (logs : List Log) (hfew : endpoint ∈ x.faulty chainId →
      fewerThanAgree V.node chainId (x.withLiar chainId endpoint) = true) :
    AttestInv V st (x.reported chainId endpoint logs) ∧
      Grows x (x.reported chainId endpoint logs) := by
  unfold Attests.reported
  split
  · next hfaulty =>
    have hmem : ∀ i ∈ x.liars chainId, i ∈ x.withLiar chainId endpoint := by
      intro i hi
      unfold Attests.withLiar
      split
      · exact hi
      · exact mem_cons_of_mem endpoint hi
    have hgrows : Grows x
        { x with liars := update x.liars chainId (x.withLiar chainId endpoint) } := by
      refine ⟨fun _ hp => hp, fun _ hk => hk, fun other i hi => ?_⟩
      dsimp only
      by_cases hother : other = chainId
      · subst hother
        rw [update_self]
        exact hmem i hi
      · rw [update_of_ne hother]
        exact hi
    refine ⟨h.grow hgrows (fun _ hk => .inl hk) (fun _ hid => .inl hid) ?_ fun _ hs => .inl hs,
      hgrows⟩
    intro other chain hchain
    by_cases hother : other = chainId
    · subst hother
      have hlen := hfew hfaulty
      simp only [fewerThanAgree, hchain, Option.all_some, decide_eq_true_eq] at hlen
      dsimp only
      rw [update_self]
      refine ⟨?_, .inr hlen⟩
      unfold Attests.withLiar
      split
      · exact (h.liars hchain).1
      · next hnot => exact nodup_cons.mpr ⟨hnot, (h.liars hchain).1⟩
    · dsimp only
      rw [update_of_ne hother]
      exact h.liars hchain
  · have hgrows : Grows x { x with
          reports := x.reports ++ logs.map fun log => { chainId, endpoint, log } } :=
      ⟨fun _ hp => mem_append_left _ hp, fun _ hk => hk, fun _ _ hi => hi⟩
    exact ⟨h.grow hgrows (fun _ hk => .inl hk) (fun _ hid => .inl hid) h.liars fun _ hs => .inl hs,
      hgrows⟩

lemma observe_still (he : still e) (h : AttestInv V st x) (store : Store) (now : Nat)
    (r : Except String (Answer e))
    (hfew : ∀ chainId endpoint fromBlock toBlock, e = .getLogs chainId endpoint fromBlock toBlock →
      endpoint ∈ x.faulty chainId →
        fewerThanAgree V.node chainId (x.withLiar chainId endpoint) = true) :
    AttestInv V st (x.observe store now e r) ∧ Grows x (x.observe store now e r) := by
  cases e with
  | getLogs chainId endpoint fromBlock toBlock =>
    cases r with
    | error => exact ⟨h, Grows.refl x⟩
    | ok logs => exact reported_inv h logs (hfew chainId endpoint fromBlock toBlock rfl)
  | record | confirm | putOwnSignature => exact he.elim
  | write m =>
    cases m with
    | putTransfer | setTransferStatus | markExecuted => exact he.elim
    | _ => cases r <;> exact ⟨h, Grows.refl x⟩
  | _ => cases r <;> exact ⟨h, Grows.refl x⟩

lemma perform_still (he : still e) (h : AttestInv V w.store w.ext)
    {reply : (e : Effect) → Except String (Answer e)}
    (hok : Sourced V.node w e (.answer now reply)) :
    let after := (w.perform V.node (attests V.node) now e (reply e)).2
    AttestInv V after.store after.ext ∧ ∀ p, Keeps p w after := by
  have hsame := getTransfer_still (w := w) (N := V.node) he now (reply e)
  have hfew : ∀ chainId endpoint fromBlock toBlock,
      e = .getLogs chainId endpoint fromBlock toBlock → endpoint ∈ w.ext.faulty chainId →
        fewerThanAgree V.node chainId (w.ext.withLiar chainId endpoint) = true := by
    rintro chainId endpoint fromBlock toBlock rfl hfaulty
    have := hok.2
    simpa only [sourced, hfaulty, decide_true, Bool.not_true, Bool.false_or] using this
  obtain ⟨hinv, hgrows⟩ := observe_still he h w.store now (w.serve V.node now e (reply e)).1 hfew
  refine ⟨hinv.same hsame, fun p => ⟨fun {id r} hr _ => ?_, hgrows⟩⟩
  exact (hsame id).trans hr

lemma relies_attest : Runtime.Relies (attestDiscipline V) where
  refl i w := by
    cases i with
    | role | watcher => exact Keeps.refl _ w
  trans {i w1 w2 w3} h h' := by
    cases i with
    | role | watcher => exact Keeps.trans h h'

lemma quiet_still (i : Thread) : Quiet V.node (attests V.node) (attestDiscipline V) i still where
  toRelies := relies_attest
  effect he hw hok := by
    obtain ⟨hinv, hkeeps⟩ := perform_still he hw hok
    refine ⟨hinv, ?_, ?_⟩
    · cases i with
      | role | watcher => exact hkeeps _
    · cases i with
      | role | watcher => exact hkeeps _

lemma quiet_probing_attest {i : Thread} :
    Quiet V.node (attests V.node) (attestDiscipline V) i probing :=
  (quiet_still i).within

/-! ### Recording -/

structure EventOk (E : Ethers) (ev : SentEvent) : Prop where
  form : E.checksummed ev.transfer = .ok ev.transfer
  hash : E.keccak256 (.transfer ev.transfer) = ev.transferId

lemma eventOk_of_decodes {E : Ethers} (hE : E.Sane) {log : Log}
    (h : E.Decodes log ev) : EventOk E ev := by
  have hform := hE.checksummed h.transfer
  refine ⟨hform, ?_⟩
  have hid := h.computed
  simp only [Ethers.transferIdOf, bind_eq_ok, pure_eq_ok] at hid
  obtain ⟨x, hx, hhash⟩ := hid
  cases hform.symm.trans hx
  exact hhash

/-- What `putTransfer` stores if the transfer is in checksummed form: the row itself, when it
is new or differs from the one that is there in its anchor only. -/
lemma getTransfer_record {t : StoredTransfer} (h : st.mutate H now (.putTransfer t) = .ok st')
    (hform : H.ethers.checksummed t.transfer = .ok t.transfer)
    (hold : st.getTransfer t.transferId = none ∨
      ∃ old ev time, st.getTransfer t.transferId = some old ∧ t = reanchored old ev time)
    (id : String) :
    st'.getTransfer id = if id = t.transferId then some t else st.getTransfer id := by
  obtain ⟨y, hy, htable⟩ := transfers_putTransfer h
  have hy' : y = t.transfer := by
    rcases hy with rfl | hy
    · rfl
    · cases hform.symm.trans hy
      rfl
  subst hy'
  rw [getTransfer, htable, Table.get_upsert]
  refine if_congr Iff.rfl (congrArg some ?_) rfl
  rcases hold with hnone | ⟨old, ev, time, hsome, rfl⟩
  · rw [getTransfer] at hnone
    rw [hnone]
    cases st <;> rfl
  · rw [getTransfer] at hsome
    rw [hsome]
    cases st <;> rfl

abbrev AttestSafe {α : Type} (V : ValidatorConfig) (role : Job → Prog Unit) (i : Thread) (t : Prog α)
    (Q : Except String α → World Attests → Prop) (w : World Attests) : Prop :=
  (runtime V.node (attests V.node) role).Safe (attestDiscipline V) i t Q w

abbrev AttestKept {α : Type} (V : ValidatorConfig) (_ : Except String α) (w : World Attests) : Prop :=
  AttestInv V w.store w.ext

include hw in
/-- **A write**: if it throws, nothing has changed. -/
theorem safe_mutation {role : Job → Prog Unit} {i : Thread} {m : Mutation}
    {Q : Except String (Answer e) → World Attests → Prop} (hm : e.mutation = some m)
    (hfail : ∀ reason, Q (.error reason) w)
    (hdone : ∀ now reply st a, (attestDiscipline V).ok w e (.answer now reply) →
      w.store.mutate V.node.host now m = .ok st →
        let w' := { w with store := st, ext := w.ext.observe w.store now e (.ok a) }
        AttestInv V w'.store w'.ext ∧ (attestDiscipline V).guar i w w' ∧ Q (.ok a) w') :
    AttestSafe V role i (ask e) Q w := by
  have he : e.awaits = false := by
    cases e <;> first | rfl | cases hm
  refine safe_sync relies_attest he hw fun now reply hok => ?_
  rcases perform_cases (N := V.node) (O := attests V.node) hm w now (reply e)
    with ⟨reason, hperform⟩ | ⟨st, a, hst, hperform⟩
  · have hext : (attests V.node).observe w.ext w.store now e (.error reason) = w.ext :=
      Attests.observe_error w.store now
    rw [hperform, hext]
    refine ⟨hw, ?_, hfail reason⟩
    cases i <;> exact Keeps.refl _ w
  · rw [hperform]
    exact hdone now reply st a hok hst

include hw in
/-- The write of a row that is new, or of a `seen` one that is anchored anew. -/
lemma safe_recordRow {role : Job → Prog Unit} {t : StoredTransfer} (hseen : t.status = .seen)
    (hform : V.node.host.ethers.checksummed t.transfer = .ok t.transfer)
    (hhash : V.node.host.ethers.keccak256 (.transfer t.transfer) = t.transferId)
    (hold : w.store.getTransfer t.transferId = none ∨
      ∃ old ev time, w.store.getTransfer t.transferId = some old ∧ old.status = .seen ∧
        t = reanchored old ev time) : AttestSafe V role (.watcher chainId)
      (ask (.record chainId t)) (AttestKept V) w := by
  refine safe_mutation hw rfl (fun _ => hw) fun _ _ st _ hok hst => ?_
  have hsource : t.transfer.srcChainId = chainId := of_decide_eq_true hok.2
  have hget := getTransfer_record hst hform
    (hold.imp id fun ⟨old, ev, time, hsome, _, ht⟩ => ⟨old, ev, time, hsome, ht⟩)
  have hinv : AttestInv V st w.ext := by
    refine hw.update hget (fun r hr hended => ?_) ⟨rfl, hform, hhash, fun h => absurd hseen h⟩
    rcases hold with hnone | ⟨old, _, _, hsome, hstatus, _⟩
    · cases hnone.symm.trans hr
    · cases hsome.symm.trans hr
      rcases hended with h | h <;> cases hstatus.symm.trans h
  refine ⟨hinv, ⟨fun {id r} hr hnot => (hget id).trans ?_, Grows.refl _⟩, hinv⟩
  split
  · next heq =>
    -- the row that is anchored anew is a `seen` row of this chain
    subst heq
    rcases hold with hnone | ⟨old, ev, time, hsome, hstatus, ht⟩
    · cases hnone.symm.trans hr
    · cases hsome.symm.trans hr
      rw [ht] at hsource
      exact absurd ⟨hstatus, hsource⟩ hnot
  · exact hr

variable {role : Job → Prog Unit} (hE : V.node.host.ethers.Sane)

include hw in
lemma safe_record_attest (hev : EventOk V.node.host.ethers ev) :
    AttestSafe V role (.watcher chainId)
      (record chainId ev) (AttestKept V) w := by
  refine safe_bind.mpr (safe_sync relies_attest rfl hw fun now reply _ => ?_)
  cases hr : reply (.getTransfer ev.transferId) with
  | error => exact ⟨hw, Keeps.refl _ w, hw⟩
  | ok =>
    refine ⟨hw, Keeps.refl _ w, safe_bind.mpr (safe_sync relies_attest rfl hw
      fun now reply _ => ?_)⟩
    refine ⟨hw, Keeps.refl _ _, ?_⟩
    cases hrow : w.store.getTransfer ev.transferId with
    | none => exact safe_recordRow hw rfl hev.form hev.hash (.inl hrow)
    | some existing =>
      have hok := hw.rows hrow
      refine safe_guard hw fun hseen => ?_
      refine safe_ite.mpr ⟨fun _ => ?_, fun _ => hw⟩
      have hseen' : existing.status = .seen := Decidable.not_not.mp hseen
      have hrow' : w.store.getTransfer (reanchored existing ev now).transferId = some existing := by
        show w.store.getTransfer existing.transferId = some existing
        rw [hok.key]
        exact hrow
      exact safe_recordRow hw hseen' hok.form hok.hash
        (.inr ⟨existing, ev, now, hrow', hseen', rfl⟩)

include hE in
lemma safe_scanChunks_attest (settled : Int)
    (chunks : List (Nat × Nat)) (saved : Nat) (hw : AttestInv V w.store w.ext) :
    AttestSafe V role (.watcher chainId) (scanChunks V.node chain chainId settled chunks saved)
      (AttestKept V) w := by
  induction chunks generalizing w saved with
  | nil => exact hw
  | cons chunk rest ih =>
    have hlogs : (logsWithFailover chain chainId V.node.isRangeRefusal chunk.1 chunk.2).Uses
        still := uses_logsWithFailover.within
    refine ((quiet_still _).safe hlogs hw).bind_ok (fun _ _ hw1 => hw1.2) fun logs w1 hw1 => ?_
    refine safe_bind.mpr (safe_lift.mpr ?_)
    cases hdecode : decodeSent V.node.host.ethers logs with
    | error => exact hw1.2
    | ok events =>
      have hw1' : AttestInv V w1.store w1.ext := hw1.2
      have hrecords : AttestSafe V role (.watcher chainId) (Task.each events (record chainId))
          (AttestKept V) w1 := by
        refine safe_each
          (P := fun rest w' => AttestInv V w'.store w'.ext ∧ ∀ ev ∈ rest, ev ∈ events)
          ⟨hw1', fun _ hev => hev⟩ (fun ev rest w2 hw2 => ?_) fun _ hw2 => hw2.1
        obtain ⟨log, -, hlog⟩ := (decodeSent_ok hdecode).2 ev (hw2.2 ev mem_cons_self)
        have hev := eventOk_of_decodes hE (Ethers.decodes_of_decodeSentLog hlog)
        refine (safe_record_attest hw2.1 hev).mono fun r w3 hw3 => ?_
        cases r with
        | ok => exact ⟨hw3, fun ev' hev' => hw2.2 ev' (mem_cons_of_mem ev hev')⟩
        | error => exact hw3
      refine hrecords.bind fun r w2 hw2 => ?_
      cases r with
      | error => exact hw2
      | ok =>
        refine safe_ite.mpr ⟨fun _ => ?_, fun _ => ih saved hw2⟩
        have hset : (write (.setCursor chainId (min (chunk.2 : Int) settled).toNat)).Uses
            still := .one trivial
        refine ((quiet_still _).safe hset hw2).bind fun r w3 hw3 => ?_
        cases r with
        | error => exact hw3.2
        | ok => exact ih _ hw3.2

/-! ### Counting -/

/-- An endpoint that was not faulty reported the log of the row, in the block the row is
anchored to. -/
def Honest (E : Ethers) (chainId : Nat) (t : StoredTransfer) (x : Attests) : Prop :=
  ∃ p ∈ x.reports, p.chainId = chainId ∧ p.log.blockNumber = t.srcBlockNumber ∧
    ∃ ev, E.Decodes p.log ev ∧ ev.transferId.toLower = t.transferId.toLower ∧
      ev.blockHash.toLower = t.srcBlockHash.toLower

/-- If no honest endpoint reported the log, only liars agreed. -/
def Counted (E : Ethers) (chainId : Nat) (t : StoredTransfer) (asked : List Nat) (agreed : Nat)
    (x : Attests) : Prop :=
  Honest E chainId t x ∨ agreed ≤ asked.countP fun i => decide (i ∈ x.liars chainId)

/-- The endpoint is a liar, or what it answered is reported. -/
def Answered (chainId endpoint : Nat) (t : StoredTransfer) (logs : List Log) (x : Attests) : Prop :=
  endpoint ∈ x.liars chainId ∨
    ∀ log ∈ logs, { chainId, endpoint, log } ∈ x.reports ∧ log.blockNumber = t.srcBlockNumber

variable {E : Ethers} {t : StoredTransfer} {x' : Attests}
  (hchain : V.node.chains chainId = some chain)
  {agreed : Nat} {w0 : World Attests} {r' : StoredTransfer} {p : StoredTransfer → Prop}

lemma Honest.grows (h : Honest E chainId t x) (hx : Grows x x') : Honest E chainId t x' := by
  obtain ⟨p, hp, hrest⟩ := h
  exact ⟨p, hx.reports p hp, hrest⟩

lemma Counted.grows (h : Counted E chainId t asked agreed x)
    (hx : Grows x x') : Counted E chainId t asked agreed x' := by
  rcases h with h | h
  · exact .inl (h.grows hx)
  · refine .inr (Nat.le_trans h (countP_mono_left fun i _ hi => ?_))
    exact decide_eq_true (hx.liars chainId i (of_decide_eq_true hi))

lemma Counted.more (h : Counted E chainId t asked agreed x)
    (endpoint : Nat) : Counted E chainId t (asked ++ [endpoint]) agreed x := by
  rcases h with h | h
  · exact .inl h
  · refine .inr (Nat.le_trans h ?_)
    rw [countP_append]
    exact Nat.le_add_right _ _

lemma Answered.grows {logs : List Log} (h : Answered chainId endpoint t logs x)
    (hx : Grows x x') : Answered chainId endpoint t logs x' := by
  rcases h with h | h
  · exact .inl (hx.liars chainId endpoint h)
  · exact .inr fun log hlog => ⟨hx.reports _ (h log hlog).1, (h log hlog).2⟩

/-- An answer that agrees is a report of an honest endpoint, or comes from a liar. -/
theorem Counted.answer {tally : Tally} {logs : List Log}
    {events : List SentEvent} (h : Counted E chainId t asked tally.agreed x)
    (hanswered : Answered chainId endpoint t logs x) (hdecode : decodeSent E logs = .ok events) :
    Counted E chainId t (asked ++ [endpoint])
      (countAnswer chain t.transferId t.srcBlockNumber t.srcBlockHash endpoint tally events).agreed
      x := by
  rcases agreed_countAnswer chain t.transferId t.srcBlockNumber t.srcBlockHash endpoint tally events
    with hsame | ⟨hmore, ev, hev, hid, hhash⟩
  · rw [hsame]
    exact h.more endpoint
  · obtain ⟨log, hlog, hlogev⟩ := (decodeSent_ok hdecode).2 ev hev
    rcases hanswered with hliar | hreported
    · rcases h with h | h
      · exact .inl h
      · refine .inr ?_
        rw [hmore, countP_append, countP_singleton, if_pos (decide_eq_true hliar)]
        omega
    · obtain ⟨hreport, hblock⟩ := hreported log hlog
      exact .inl ⟨_, hreport, rfl, hblock, ev, Ethers.decodes_of_decodeSentLog hlogev, hid, hhash⟩

/-- **The quorum**: as many different endpoints as agree are not all liars. -/
theorem Counted.honest {agreed : Nat} (h : Counted E chainId t asked agreed x)
    (hasked : asked.Nodup) (hpos : 0 < agreed) (hagree : chain.minAgreeingEndpoints ≤ agreed)
    (hliars : x.liars chainId = [] ∨ (x.liars chainId).length < chain.minAgreeingEndpoints) :
    Honest E chainId t x := by
  rcases h with h | h
  · exact h
  · have hle : (asked.countP fun i => decide (i ∈ x.liars chainId)) ≤ (x.liars chainId).length := by
      rw [countP_eq_length_filter]
      refine ((hasked.filter _).subperm fun i hi => ?_).length_le
      exact of_decide_eq_true (mem_filter.mp hi).2
    rcases hliars with hnil | hfew
    · have hzero : (x.liars chainId).length = 0 := by
        rw [hnil]
        rfl
      omega
    · omega

/-- What the re-read of a log has found so far, in a world that was relied on. -/
structure Counting (V : ValidatorConfig) (chainId : Nat) (t : StoredTransfer) (w : World Attests)
    (asked : List Nat) (agreed : Nat) (w' : World Attests) : Prop where
  inv : AttestInv V w'.store w'.ext
  keeps : Keeps (SeenOf chainId) w w'
  counted : Counted V.node.host.ethers chainId t asked agreed w'.ext

include hw in
lemma safe_getLogs_attest (endpoint : Nat) : AttestSafe V role (.watcher chainId)
      (ask (.getLogs chainId endpoint t.srcBlockNumber t.srcBlockNumber))
      (fun r w' => AttestInv V w'.store w'.ext ∧ Keeps (SeenOf chainId) w w' ∧
        ∀ logs, r = .ok logs → Answered chainId endpoint t logs w'.ext) w := by
  refine safe_ask relies_attest hw ?_
  intro w1 now reply hrely _ hw1 hok
  obtain ⟨hinv, hkeeps⟩ :=
    perform_still (e := .getLogs chainId endpoint t.srcBlockNumber t.srcBlockNumber) (by trivial)
      hw1 hok
  refine ⟨hinv, hkeeps _, hinv, Keeps.trans hrely (hkeeps _), fun logs hr => ?_⟩
  have hreply : reply (.getLogs chainId endpoint t.srcBlockNumber t.srcBlockNumber) = .ok logs := hr
  have hreporting := hok.1
  have hext : (w1.perform V.node (attests V.node) now
      (.getLogs chainId endpoint t.srcBlockNumber t.srcBlockNumber) (reply _)).2.ext =
        w1.ext.reported chainId endpoint logs := by
    rw [hreply]
    rfl
  rw [hext]
  unfold Attests.reported
  split
  · left
    dsimp only
    rw [update_self]
    unfold Attests.withLiar
    split
    · next hmem => exact hmem
    · exact mem_cons_self
  · next hnot =>
    simp only [Reporting, reporting, hnot, decide_false, Bool.false_or, hreply, Except.toOption,
      Option.all_some, all_eq_true, Bool.and_eq_true, decide_eq_true_eq] at hreporting
    refine .inr fun log hlog => ⟨?_, ?_⟩
    · exact mem_append_right _ (mem_map.mpr ⟨log, hlog, rfl⟩)
    · have := hreporting log hlog
      omega

lemma safe_askEndpoint {tally : Tally}
    (h : Counting V chainId t w0 asked tally.agreed w) (endpoint : Nat) :
    AttestSafe V role (.watcher chainId)
      (askEndpoint chain chainId V.node.host.ethers t.transferId t.srcBlockNumber t.srcBlockHash
        tally endpoint) (Ends (attestDiscipline V) fun tally' =>
        Counting V chainId t w0 (asked ++ [endpoint]) tally'.agreed) w := by
  have hmark : ∀ m, (ask (.mark chainId endpoint m)).Uses still := fun m =>
    .one trivial
  have hquiet : ∀ {w1 : World Attests}, Keeps (SeenOf chainId) w w1 →
      AttestInv V w1.store w1.ext → Counting V chainId t w0 asked tally.agreed w1 :=
    fun hkeeps hinv => ⟨hinv, h.keeps.trans hkeeps, h.counted.grows hkeeps.grows⟩
  -- an endpoint that fails is not counted
  have hhandler : ∀ (reason : String) {w1 : World Attests},
      Counting V chainId t w0 asked tally.agreed w1 →
      AttestSafe V role (.watcher chainId) (do
          ask (.mark chainId endpoint .logsUnusable)
          pure { tally with
                 errored := tally.errored + 1
                 disagreements := tally.disagreements ++ [s!"{urlOf chain endpoint}: {reason}"] })
        (Ends (attestDiscipline V) fun tally' =>
          Counting V chainId t w0 (asked ++ [endpoint]) tally'.agreed) w1 := by
    intro reason w1 hw1
    refine ((quiet_still _).safe (hmark .logsUnusable) hw1.inv).bind_ok (fun _ _ hw2 => hw2.2)
      fun _ w2 hw2 => ?_
    have hkeeps : Keeps (SeenOf chainId) w1 w2 := hw2.1
    exact ⟨hw2.2, hw1.keeps.trans hkeeps, (hw1.counted.grows hkeeps.grows).more endpoint⟩
  refine safe_tryCatch.mpr (safe_bind.mpr ?_)
  refine (safe_getLogs_attest h.inv endpoint).mono fun r w1 hw1 => ?_
  cases r with
  | error reason => exact hhandler reason (hquiet hw1.2.1 hw1.1)
  | ok logs =>
    refine ((quiet_still _).safe (hmark .logsOk) hw1.1).bind fun r w2 hw2 => ?_
    have hkeeps : Keeps (SeenOf chainId) w1 w2 := hw2.1
    have hcounting := hquiet (hw1.2.1.trans hkeeps) hw2.2
    cases r with
    | error reason => exact hhandler reason hcounting
    | ok =>
      refine safe_bind.mpr (safe_lift.mpr ?_)
      cases hdecode : decodeSent V.node.host.ethers logs with
      | error reason => exact hhandler reason hcounting
      | ok =>
        refine ⟨hcounting.inv, hcounting.keeps, ?_⟩
        exact hcounting.counted.answer ((hw1.2.2 logs rfl).grows hkeeps.grows) hdecode

lemma safe_askEndpoints (tally : Tally)
    (h : Counting V chainId t w0 asked tally.agreed w) (endpoints : List Nat) :
    AttestSafe V role (.watcher chainId)
      (askEndpoints chain chainId V.node.host.ethers t.transferId t.srcBlockNumber t.srcBlockHash
        endpoints tally) (Ends (attestDiscipline V) fun tally' =>
        Counting V chainId t w0 (asked ++ endpoints) tally'.agreed) w := by
  induction endpoints generalizing asked tally w with
  | nil =>
    rw [append_nil]
    exact h
  | cons endpoint _ ih =>
    refine (safe_askEndpoint h endpoint).bind_ok (fun _ _ hw1 => hw1) fun tally1 w1 hw1 => ?_
    have hrest := ih tally1 hw1
    rw [append_assoc, singleton_append] at hrest
    exact hrest

def Reread (V : ValidatorConfig) (chainId : Nat) (t : StoredTransfer) (w : World Attests)
    (confirmation : Confirmation) (w' : World Attests) : Prop :=
  AttestInv V w'.store w'.ext ∧ Keeps (SeenOf chainId) w w' ∧
    (confirmation = .ok → Honest V.node.host.ethers chainId t w'.ext)

include hchain in
lemma safe_confirmSent (requireAll : Bool) (hw : AttestInv V w.store w.ext) :
    AttestSafe V role (.watcher chainId)
      (confirmSentAcrossEndpoints chain chainId V.node.host.ethers requireAll t.transferId
        t.srcBlockNumber t.srcBlockHash) (Ends (attestDiscipline V) (Reread V chainId t w)) w := by
  have hendpoints : (logEndpoints chainId).Uses still := (uses_logEndpoints chainId).within
  refine (((quiet_still _).safe hendpoints hw).yields (yields_logEndpoints chainId)).bind
      fun r w1 hw1 => ?_
  cases r with
  | error => exact hw1.1.2
  | ok endpoints =>
    have hnodup : endpoints.Nodup := hw1.2 endpoints rfl
    have hstart : Counting V chainId t w [] 0 w1 := ⟨hw1.1.2, hw1.1.1, .inr (Nat.zero_le _)⟩
    refine safe_guard ⟨hstart.inv, hstart.keeps, nofun⟩ fun _ => ?_
    refine safe_guard ⟨hstart.inv, hstart.keeps, nofun⟩ fun _ => ?_
    refine (safe_askEndpoints {} hstart endpoints).bind_ok (fun _ _ hw2 => hw2)
      fun tally w2 hw2 => ?_
    refine ⟨hw2.inv, hw2.keeps, fun hok => ?_⟩
    obtain ⟨hpos, hagree⟩ := decideConfirmation_ok hok
    exact hw2.counted.honest hnodup hpos hagree (hw2.inv.liars hchain).2

/-! ### Confirming -/

lemma Honest.backs (hE : E.Sane) (h : Honest E chainId t x) (hrow : RowOk E x t.transferId t)
    (hsource : t.transfer.srcChainId = chainId) : x.Backs E t := by
  obtain ⟨p, hp, hchain, hblock, ev, hdecodes, hid, hhash⟩ := h
  have hev := eventOk_of_decodes hE hdecodes
  have hsame : ev.transfer = t.transfer := by
    refine hE.injective ?_
    rw [hev.hash, hrow.hash]
    exact hid
  refine ⟨p, hp, hchain.trans hsource.symm, ?_, hblock, ?_⟩
  · rw [← hsame]
    exact hdecodes.transfer
  · rw [← hdecodes.blockHash]
    exact hhash

/-- The rows say the same about their transfer. -/
structure SameTransfer (r r' : StoredTransfer) : Prop where
  transferId : r'.transferId = r.transferId
  transfer : r'.transfer = r.transfer
  block : r'.srcBlockNumber = r.srcBlockNumber
  hash : r'.srcBlockHash = r.srcBlockHash

lemma Attests.Backs.same (h : x.Backs E r) (hr : SameTransfer r r') : x.Backs E r' := by
  obtain ⟨p, hp, hshows⟩ := h
  refine ⟨p, hp, ?_, ?_, ?_, ?_⟩
  · rw [hr.transfer]
    exact hshows.chain
  · rw [hr.transfer]
    exact hshows.fields
  · rw [hr.block]
    exact hshows.block
  · rw [hr.hash]
    exact hshows.hash

lemma getTransfer_setStatus {reason : Option String}
    (h : st.mutate H now (.setTransferStatus transferId status reason) = .ok st')
    (hrow : st.getTransfer transferId = some r) (id : String) : st'.getTransfer id =
      if id = transferId then some (r.withStatus status reason now) else st.getTransfer id := by
  rw [getTransfer] at hrow
  rw [getTransfer, transfers_mutate (by simp) h, restamp, Table.get_modify, hrow]
  rfl

lemma getTransfer_markExecuted {txHash : Option String}
    (h : st.mutate H now (.markExecuted transferId txHash) = .ok st')
    (hrow : st.getTransfer transferId = some r) (id : String) : st'.getTransfer id =
      if id = transferId then some (r.asExecuted txHash now) else st.getTransfer id := by
  rw [getTransfer] at hrow
  rw [getTransfer, transfers_mutate (by simp) h, restamp, Table.get_modify, hrow]
  rfl

lemma keeps_of_update (hst : ∀ id, w'.store.getTransfer id =
      if id = transferId then some r' else w.store.getTransfer id)
    (hrow : w.store.getTransfer transferId = some r) (hp : ¬ p r) (hgrows : Grows w.ext w'.ext) :
    Keeps p w w' := by
  refine ⟨fun {id r1} hr1 hpr1 => ?_, hgrows⟩
  rw [hst]
  split
  · next heq =>
    rw [heq] at hr1
    cases hrow.symm.trans hr1
    exact absurd hpr1 hp
  · exact hr1

/-- The row is as it was read, in a certain status. -/
def At (status : TransferStatus) (w : World Attests) (t : StoredTransfer) : Prop :=
  w.store.getTransfer t.transferId = some t ∧ t.status = status

lemma not_ended_of_at (h : At status w t) (hlive : status ≠ .orphaned ∧ status ≠ .executed)
    (hr : w.store.getTransfer t.transferId = some r) : ¬ Ended r := by
  cases h.1.symm.trans hr
  rw [Ended, h.2]
  rintro (horphaned | hexecuted)
  · exact hlive.1 horphaned
  · exact hlive.2 hexecuted

/-- The rows of other transfers of the pass. -/
def SeenBut (chainId : Nat) (transferId : String) (r : StoredTransfer) : Prop :=
  SeenOf chainId r ∧ r.transferId ≠ transferId

/-- A transfer whose row has ended is noted. -/
lemma AttestInv.ends (h : AttestInv V st x)
    (hrow : st.getTransfer transferId = some r) (hended : Ended r) :
    AttestInv V st { x with ended := transferId :: x.ended } ∧
      Grows x { x with ended := transferId :: x.ended } := by
  have hgrows : Grows x { x with ended := transferId :: x.ended } :=
    ⟨fun _ hp => hp, fun _ hk => hk, fun _ _ hi => hi⟩
  refine ⟨h.grow hgrows (fun _ hk => .inl hk) (fun id hid => ?_) h.liars fun _ hs => .inl hs, hgrows⟩
  rcases mem_cons.mp hid with rfl | hid
  · exact .inr ⟨r, hrow, hended⟩
  · exact .inl hid

include hE in
lemma safe_confirm_attest (hw : AttestInv V w.store w.ext)
    (hat : At .seen w t) (hsource : t.transfer.srcChainId = chainId)
    (hhonest : Honest V.node.host.ethers chainId t w.ext) :
    AttestSafe V role (.watcher chainId) (ask (.confirm chainId t))
      (fun _ w' => AttestInv V w'.store w'.ext ∧ Keeps (SeenBut chainId t.transferId) w w') w := by
  refine safe_mutation hw rfl (fun _ => ⟨hw, Keeps.refl _ w⟩) fun now _ st a _ hst => ?_
  have hrow := hw.rows hat.1
  have hbacks := hhonest.backs hE hrow hsource
  -- first the row is noted as confirmed, then its status changes
  have hgrows : Grows w.ext { w.ext with confirmed := w.ext.confirmed ++ [t] } :=
    ⟨fun _ hp => hp, fun _ hk => mem_append_left _ hk, fun _ _ hi => hi⟩
  have hext : w.ext.observe w.store now (.confirm chainId t) (.ok a) =
      { w.ext with confirmed := w.ext.confirmed ++ [t] } := by
    simp [Attests.observe, hat.1]
  have hnoted : AttestInv V w.store { w.ext with confirmed := w.ext.confirmed ++ [t] } := by
    refine hw.grow hgrows (fun k hk => ?_) (fun _ hid => .inl hid) hw.liars fun _ hs => .inl hs
    rcases mem_append.mp hk with hk | hk
    · exact .inl hk
    · rw [mem_singleton] at hk
      subst hk
      exact .inr hbacks
  have hget := getTransfer_setStatus hst hat.1
  have hinv : AttestInv V st { w.ext with confirmed := w.ext.confirmed ++ [t] } := by
    refine hnoted.update hget (fun r hr => not_ended_of_at hat (by decide) hr) ?_
    refine ⟨rfl, hrow.form, hrow.hash, fun _ _ => ⟨?_, t, ?_, rfl, rfl⟩⟩
    · exact (hbacks.grows hgrows).same ⟨rfl, rfl, rfl, rfl⟩
    · exact mem_append_right _ mem_cons_self
  rw [← hext] at hgrows hinv
  refine ⟨hinv, keeps_of_update hget hat.1 ?_ hgrows, hinv, keeps_of_update hget hat.1 ?_ hgrows⟩
  · exact fun hnot => hnot ⟨hat.2, hsource⟩
  · exact fun hbut => hbut.2 rfl

include hw in
lemma safe_orphan (hat : At .seen w t)
    (hsource : t.transfer.srcChainId = chainId) (reason : String) :
    AttestSafe V role (.watcher chainId)
      (write (.setTransferStatus t.transferId .orphaned (some reason)))
      (fun _ w' => AttestInv V w'.store w'.ext ∧ Keeps (SeenBut chainId t.transferId) w w') w := by
  refine safe_mutation hw rfl (fun _ => ⟨hw, Keeps.refl _ w⟩) fun _ _ st _ _ hst => ?_
  have hrow := hw.rows hat.1
  have hget := getTransfer_setStatus hst hat.1
  have hupdated : AttestInv V st w.ext := by
    refine hw.update hget (fun r hr => not_ended_of_at hat (by decide) hr) ?_
    exact ⟨rfl, hrow.form, hrow.hash, fun _ horphaned => absurd rfl horphaned⟩
  obtain ⟨hinv, hgrows⟩ := hupdated.ends ((hget _).trans (if_pos rfl)) (.inl rfl)
  refine ⟨hinv, keeps_of_update hget hat.1 ?_ hgrows, hinv, keeps_of_update hget hat.1 ?_ hgrows⟩
  · exact fun hnot => hnot ⟨hat.2, hsource⟩
  · exact fun hbut => hbut.2 rfl

/-- The row stays as it was read if the others keep the `seen` rows of the chain. -/
lemma At.keeps_seen (h : At .seen w t) (hsource : t.transfer.srcChainId = chainId)
    (hkeeps : Keeps (SeenOf chainId) w w') : At .seen w' t :=
  ⟨hkeeps.rows h.1 ⟨h.2, hsource⟩, h.2⟩

include hE in
include hchain in
lemma safe_confirmOne_attest (settled : Int) (hw : AttestInv V w.store w.ext)
    (hat : At .seen w t) (hsource : t.transfer.srcChainId = chainId) :
    AttestSafe V role (.watcher chainId) (confirmOne V.node chain chainId settled t)
      (Ends (attestDiscipline V) fun _ w' => AttestInv V w'.store w'.ext ∧
        Keeps (SeenBut chainId t.transferId) w w') w := by
  have hends : ∀ {r : Except String Unit} {w' : World Attests},
      AttestInv V w'.store w'.ext ∧ Keeps (SeenBut chainId t.transferId) w w' →
      Ends (attestDiscipline V) (fun _ w' => AttestInv V w'.store w'.ext ∧
        Keeps (SeenBut chainId t.transferId) w w') r w' := by
    intro r w' h
    cases r with
    | ok => exact h
    | error => exact h.1
  refine safe_guard ⟨hw, Keeps.refl _ w⟩ fun _ => ?_
  refine (safe_confirmSent hchain _ hw).bind_ok (fun _ _ hw1 => hw1) fun confirmation w1 hw1 => ?_
  obtain ⟨hinv, hkeeps, hhonest⟩ := hw1
  have hat1 := hat.keeps_seen hsource hkeeps
  have hbut : Keeps (SeenBut chainId t.transferId) w w1 := hkeeps.mono fun _ hr => hr.1
  cases confirmation with
  | ok =>
    exact (safe_confirm_attest hE hinv hat1 hsource (hhonest rfl)).mono fun _ w2 hw2 =>
      hends ⟨hw2.1, hbut.trans hw2.2⟩
  | vanished reason =>
    exact (safe_orphan hinv hat1 hsource reason).mono fun _ w2 hw2 =>
      hends ⟨hw2.1, hbut.trans hw2.2⟩
  | quorum_failed | unavailable => exact ⟨hinv, hbut⟩

/-- What is known of the rows that were listed and are not yet dealt with. -/
structure Pending (V : ValidatorConfig) (status : TransferStatus) (p : StoredTransfer → Prop)
    (rest : List StoredTransfer) (w : World Attests) : Prop where
  inv : AttestInv V w.store w.ext
  rows : ∀ t ∈ rest, At status w t ∧ p t
  distinct : rest.Pairwise fun a b => a.transferId ≠ b.transferId

lemma Pending.next {q : StoredTransfer → Prop}
    {rest : List StoredTransfer} (h : Pending V status p (t :: rest) w)
    (hq : ∀ r, p r → r.status = status → r.transferId ≠ t.transferId → q r)
    (hinv : AttestInv V w'.store w'.ext) (hkeeps : Keeps q w w') : Pending V status p rest w' := by
  obtain ⟨hne, hdistinct⟩ := pairwise_cons.mp h.distinct
  refine ⟨hinv, fun r hr => ?_, hdistinct⟩
  obtain ⟨hat, hp⟩ := h.rows r (mem_cons_of_mem t hr)
  exact ⟨⟨hkeeps.rows hat.1 (hq r hp hat.2 (Ne.symm (hne r hr))), hat.2⟩, hp⟩

include hw in
lemma pending_of_list (filter : TransferFilter) (hstatus : filter.statuses = some [status]) :
    Pending V status (fun t => ∀ chainId, filter.srcChainId = some chainId →
      t.transfer.srcChainId = chainId) (w.store.listTransfers V.node.host filter) w := by
  refine ⟨hw, fun t ht => ?_, pairwise_listTransfers hw.keyed filter⟩
  have hlisted := listed_of_mem ht
  obtain ⟨id, hrow⟩ := hlisted.row
  refine ⟨⟨?_, mem_singleton.mp (hlisted.status _ hstatus)⟩, hlisted.source⟩
  rw [(hw.rows hrow).key]
  exact hrow

lemma safe_list (i : Thread) (hw : AttestInv V w.store w.ext) (filter : TransferFilter) :
    AttestSafe V role i (ask (.listTransfers filter)) (Ends (attestDiscipline V) fun rows w' =>
        w' = w ∧ rows = w.store.listTransfers V.node.host filter) w := by
  refine safe_sync relies_attest rfl hw fun now reply hok => ?_
  obtain ⟨hinv, hkeeps⟩ := perform_still (e := .listTransfers filter) (by trivial) hw hok
  refine ⟨hinv, ?_, ?_⟩
  · cases i with
    | role | watcher => exact hkeeps _
  · cases hr : reply (.listTransfers filter) with
    | error => exact hw
    | ok => exact ⟨rfl, rfl⟩

include hE in
include hchain in
lemma safe_confirmPending_attest (settled : Int) (hw : AttestInv V w.store w.ext) :
    AttestSafe V role (.watcher chainId) (confirmPending V.node chain chainId settled)
      (AttestKept V) w := by
  refine (safe_list _ hw _).bind_ok (fun _ _ hw1 => hw1) fun pending w1 hw1 => ?_
  obtain ⟨rfl, rfl⟩ := hw1
  refine safe_each
    (P := Pending V .seen fun t => ∀ source, some chainId = some source →
      t.transfer.srcChainId = source)
    (pending_of_list hw { status := some [.seen], srcChainId := some chainId
                          limit := some 1000 } rfl)
    (fun t rest w2 hw2 => ?_) fun _ hw2 => hw2.inv
  obtain ⟨hat, hsource⟩ := hw2.rows t mem_cons_self
  refine (safe_confirmOne_attest hE hchain settled hw2.inv hat (hsource chainId rfl)).mono
    fun r w3 hw3 => ?_
  cases r with
  | error => exact hw3
  | ok _ => exact hw2.next (fun r hr hstatus hne => ⟨⟨hstatus, hr chainId rfl⟩, hne⟩) hw3.1 hw3.2

include hE in
include hchain in
lemma safe_poll_attest (hw : AttestInv V w.store w.ext) : AttestSafe V role (.watcher chainId)
      (poll V.node chain chainId) (AttestKept V) w := by
  have hstill : ∀ {α : Type} {task : Prog α}, task.Uses still → ∀ {w : World Attests},
      AttestInv V w.store w.ext → AttestSafe V role (.watcher chainId) task
          (Ends (attestDiscipline V) fun _ w' => AttestInv V w'.store w'.ext) w := by
    intro α task huses w hw
    refine ((quiet_still _).safe huses hw).mono fun r w' hw' => ?_
    cases r <;> exact hw'.2
  have hprobing : ∀ e, probing e → still e := Task.Within.of
  have hhead : ∀ i, still (.blockNumber chainId i) := fun _ => by trivial
  refine safe_poll quiet_probing_attest (B := fun _ w' => AttestInv V w'.store w'.ext)
    (H := fun _ _ w' => AttestInv V w'.store w'.ext)
    (S := fun _ _ _ w' => AttestInv V w'.store w'.ext)
    (G := fun _ _ w' => AttestInv V w'.store w'.ext) ?_ ?_ ?_ ?_ ?_ ?_ (fun h => h) hw
  · exact hstill (uses_currentCursor hprobing hhead (by trivial) fun _ => by trivial)
  · exact hstill (uses_getBlockNumber chain chainId hprobing hhead)
  · exact hstill (uses_settledHeight chain chainId hprobing hhead)
  · intro cursor head settled w hw
    refine (safe_scanChunks_attest hE settled _ cursor hw).mono fun r w' hw' => ?_
    cases r <;> exact hw'
  · intro settled saved w hw
    refine (safe_confirmPending_attest hE hchain settled hw).mono fun r w' hw' => ?_
    cases r <;> exact hw'
  · intro settled saved w hw _
    have hset : (write (.setCursor chainId settled.toNat)).Uses still := .one trivial
    exact ((quiet_still _).safe hset hw).mono fun _ w' hw' => hw'.2

end Node

end Ferminux.Relayer
