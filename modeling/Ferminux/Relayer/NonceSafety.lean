import Ferminux.Relayer.Nonces

/-!
# Relayer.NonceSafety

The program of the submitter, part by part, against the invariant of
`Relayer.Nonces`: **mutual exclusion** of the attempts for one transfer and **no
collision** of nonces between transfers, in every run that meets the condition, and the runs
of the program in which they fail.

Every part that works on one transfer is shown to keep the invariant and the rows of the
others (`Leaves`). A caller of `submit` knows the row of its transfer (`Knows`) and that the
attempts that are not spent are at the nonce that would be reused (`Ready`); a caller of
`pollSubmission` holds a pending row (`Holds`). All of these survive interference (`Quiet`).
-/

namespace Ferminux.Relayer

open Lib Lib.Runtime List Option Store

namespace Submitter

variable {S : Setup} {strict : Bool} {w w' w'' : World}
  {transferId : String} {existing : Option StoredSubmission} {sub : StoredSubmission}
  {t : StoredTransfer} {again : StoredSubmission → Prog Unit} {dst : DstChain}

/-! ### Choosing a nonce and signing -/

abbrev NonceSafe {α : Type} (S : Setup) (strict : Bool) (t : Prog α)
    (Q : Except String α → World → Prop) (w : World) : Prop :=
  (runtime S).Safe (discipline S strict) () t Q w

/-- **One quiet effect**: where it is performed, and what it answers. -/
theorem safe_ask {e : Effect} (he : quiet e) (hw : Inv S strict w)
    {Q : Except String (Answer e) → World → Prop}
    (h : ∀ w1 now reply, Quiet w w1 → (e.awaits = false → w1 = w) → Inv S strict w1 →
      Careful S strict w1 e (.answer now reply) →
        Q (w1.perform S now e (reply e)).1 (w1.perform S now e (reply e)).2) :
    NonceSafe S strict (ask e) Q w := by
  refine safe_call_from relies hw fun w1 o r w' hquiet hsync hw1 hok hact => ?_
  obtain ⟨now, reply, rfl, hperform⟩ := act_eq hact
  have hstep := hw1.perform now he (reply e)
  have hQ := h w1 now reply hquiet hsync hw1 hok
  rw [hperform] at hstep hQ
  exact ⟨hstep.1, trivial, hQ⟩

/-- An effect that does not wait is performed where it is asked. -/
lemma safe_sync {e : Effect} (hw : Inv S strict w) (he : quiet e) (hsync : e.awaits = false)
    {Q : Except String (Answer e) → World → Prop}
    (h : ∀ now reply, Careful S strict w e (.answer now reply) →
      Q (w.perform S now e (reply e)).1 (w.perform S now e (reply e)).2) :
    NonceSafe S strict (ask e) Q w := by
  refine safe_ask he hw fun w1 now reply _ heq _ hok => ?_
  obtain rfl := heq hsync
  exact h now reply hok

/-- A nonce that is allocated: larger than that of every pending row, and than every nonce
that is spent if the node does not lag. -/
lemma nonceFor_allocated (hw : Book S strict w) (hready : Ready w transferId existing)
    (hnone : reusedNonce existing = none) {chainNonce : Nat}
    (hcount : w.lagged = false → w.accountNonce (S.dstOf transferId) ≤ chainNonce) :
    NonceFor S strict w transferId
      (max (chainNonce : Int) ((w.store.listSubmissions S.host .pending).foldl
        (raiseMax (S.dstOf transferId)) (-1) + 1)).toNat := by
  constructor
  · intro tx htx hid hnot
    cases hnone.symm.trans (hready tx htx hid hnot)
  · intro hstrict tx htx hchain hnonce hopen
    by_cases hspent : w.Spent tx
    · have hlagged : w.lagged = false := hopen.resolve_left fun hnot => hnot hspent
      have := hcount hlagged
      rw [World.Spent, hchain] at hspent
      omega
    · -- the row of an attempt that is not spent is pending and holds its nonce
      obtain ⟨sub, hsub, hmem⟩ := hw.mem_attempts.mp htx
      obtain ⟨haccount, halive⟩ := hw.live htx hspent hsub
      have hpending : sub.status = .pending := by
        rcases halive with hpending | ⟨hlax, -⟩
        · exact hpending
        · cases hstrict.symm.trans hlax
      obtain ⟨hid, hrowOf⟩ := hw.row hsub
      have hdst : sub.dstChainId = S.dstOf transferId := by
        obtain ⟨x, hx, rfl⟩ := mem_map.mp hmem
        rw [hrowOf.dstChainId, ← (hrowOf.attempts x hx).chainId, hchain]
      have hle := le_localMax hdst (mem_listSubmissions.mpr ⟨⟨_, hsub⟩, hpending⟩ :
          sub ∈ w.store.listSubmissions S.host .pending) (-1)
      omega

lemma safe_chooseNonce (hw : Inv S strict w) (hknows : Knows w transferId existing)
    (hready : Ready w transferId existing) :
    NonceSafe S strict (chooseNonce (S.dstOf transferId) existing)
      (fun r w' => Quiet w w' ∧ Inv S strict w' ∧
        ∀ nonce, r = .ok nonce → NonceFor S strict w' transferId nonce) w := by
  unfold chooseNonce
  cases hreused : reusedNonce existing with
  | some =>
    refine ⟨Quiet.refl w, hw, fun nonce' hnonce' => ?_⟩
    cases hnonce'
    exact nonceFor_reused hw.book hknows hready hreused
  | none =>
    refine safe_bind.mpr (safe_ask (by trivial) hw ?_)
    intro w1 now reply hquiet _ hw1 _
    cases hcount : reply (.transactionCount (S.dstOf transferId)) with
    | error => exact ⟨hquiet, hw1, nofun⟩
    | ok chainNonce =>
      obtain ⟨hw2, hcounted⟩ := hw1.counted (S.dstOf transferId) chainNonce
      have hq := hquiet.trans hcounted
      refine safe_bind.mpr (safe_sync hw2 (by trivial) rfl fun now reply _ => ?_)
      cases hlist : reply (.listSubmissions .pending) with
      | error => exact ⟨hq, hw2, nofun⟩
      | ok =>
        refine ⟨hq, hw2, fun nonce hnonce => ?_⟩
        cases hnonce
        refine nonceFor_allocated hw2.book (hready.quiet hq) hreused fun hlagged => ?_
        simp only [World.counted, Bool.or_eq_false_iff, decide_eq_false_iff_not,
          Nat.not_lt] at hlagged
        exact hlagged.2

lemma sign_quiet (w : World) (tx : RawTransaction) : Quiet w (w.sign tx) :=
  ⟨rfl, rfl, fun _ => Nat.le_refl _, id⟩

lemma Inv.sign (hw : Inv S strict w) {tx : RawTransaction}
    (hchain : tx.chainId = S.dstOf tx.transferId)
    (hnonce : NonceFor S strict w tx.transferId tx.nonce) : Inv S strict (w.sign tx) := by
  refine ⟨hw.book.quiet (sign_quiet w tx), hw.transfers, ?_, hw.mined_spent, hw.mined_once⟩
  intro s hs
  rcases mem_append.mp hs with hs | hs
  · exact hw.signed s hs
  · rw [mem_singleton] at hs
    subst hs
    intro a ha hid hne
    have hspent : w.Spent a := Decidable.byContradiction fun hnot => hne (hnonce.same a ha hid hnot)
    obtain ⟨sub, hsub, hmem⟩ := hw.book.mem_attempts.mp ha
    obtain ⟨x, hx, rfl⟩ := mem_map.mp hmem
    obtain ⟨hrowid, hrowOf⟩ := hw.book.row hsub
    have hsame : x.raw.chainId = tx.chainId := by
      rw [(hrowOf.attempts x hx).chainId, hrowid, hid, hchain]
    refine ⟨hsame, ?_⟩
    rw [World.Spent, hsame] at hspent
    exact hspent

/-! ### Submitting -/

structure Holds (w : World) (sub : StoredSubmission) : Prop where
  row : w.store.getSubmission sub.transferId = some sub
  pending : sub.status = .pending

lemma Holds.quiet (h : Holds w sub) (hq : Quiet w w') : Holds w' sub :=
  ⟨(hq.getSubmission sub.transferId).trans h.row, h.pending⟩

/-- What a part of the program leaves that works on one transfer. -/
def Leaves (S : Setup) (strict : Bool) (transferId : String) (w w' : World) : Prop :=
  Inv S strict w' ∧ Since transferId w w'

lemma Leaves.after (hsince : Since transferId w w')
    (h : Leaves S strict transferId w' w'') : Leaves S strict transferId w w'' :=
  ⟨h.1, hsince.trans h.2⟩

lemma safe_signAttempt (hknows : Knows w t.transferId existing) {nonce : Nat}
    (hnonce : NonceFor S strict w t.transferId nonce) (gas : GasConfig) (fees : FeePlan)
    (gasLimit : Nat) (signers : List String) : NonceSafe S strict
      (signAttempt S t (S.dstOf t.transferId) gas fees gasLimit signers existing nonce)
      (fun r w' => Leaves S strict t.transferId w w' ∧
        ∀ out, r = .ok out → out.1.transferId = t.transferId ∧ Holds w' out.1) w := by
  unfold signAttempt
  dsimp only
  generalize htx : RawTransaction.mk _ nonce t.transferId gasLimit _ _ signers = tx
  have hchain : tx.chainId = S.dstOf tx.transferId := by rw [← htx]
  have hid : tx.transferId = t.transferId := by rw [← htx]
  have hnonceOf : tx.nonce = nonce := by rw [← htx]
  refine safe_bind.mpr (safe_call.mpr ?_)
  intro w1 hw1 o r w' _ hact
  obtain ⟨hquiet, hinv⟩ : Quiet w w1 ∧ Inv S strict w1 := hw1
  obtain ⟨now, reply, rfl, hperform⟩ := act_eq hact
  cases hreply : reply (.signTransaction tx) with
  | error =>
    rw [hreply] at hperform
    cases hperform
    exact ⟨hinv, trivial, ⟨hinv, hquiet.since _⟩, nofun⟩
  | ok u =>
    rw [hreply] at hperform
    cases hperform
    have hnonce1 : NonceFor S strict w1 tx.transferId tx.nonce := by
      rw [hid, hnonceOf]
      exact hnonce.quiet hquiet
    have hsigned := hinv.sign hchain hnonce1
    have hquiet' := hquiet.trans (sign_quiet w1 tx)
    refine ⟨hsigned, trivial, ?_⟩
    -- reading the clock and writing the row happen before anybody else runs
    refine safe_bind.mpr (safe_sync hsigned (by trivial) rfl fun now reply _ => ?_)
    refine (safe_put hsigned fun _ => ?_).bind ?_
    · refine writable_attemptRow hsigned.book rfl (hknows.quiet hquiet') ?_ hnonceOf
        (hnonce.quiet hquiet') _
      exact ⟨hid, hid ▸ hchain, rfl⟩
    · rintro r w' ⟨hinv', hsince, hrow⟩
      have hleaves : Leaves S strict t.transferId w w' := ⟨hinv', (hquiet'.since _).trans hsince⟩
      cases r with
      | error => exact ⟨hleaves, nofun⟩
      | ok =>
        refine ⟨hleaves, fun out hout => ?_⟩
        cases hout
        exact ⟨rfl, hrow rfl, rfl⟩

lemma safe_send (hw : Inv S strict w) {record : StoredSubmission} (hrecord : Holds w record)
    (tx : RawTransaction) : NonceSafe S strict (send record tx)
      (fun r w' => Leaves S strict record.transferId w w' ∧
        ∀ out, r = .ok out → out.transferId = record.transferId ∧ Holds w' out) w := by
  unfold send
  refine safe_tryCatch.mpr (safe_bind.mpr (safe_ask (by trivial) hw ?_))
  intro w1 now reply hquiet _ hw1 _
  have hleaves : Leaves S strict record.transferId w w1 := ⟨hw1, hquiet.since _⟩
  have hsame : ∀ out, Except.ok record = (Except.ok out : Except String _) →
      out.transferId = record.transferId ∧ Holds w1 out := by
    intro out hout
    cases hout
    exact ⟨rfl, hrecord.quiet hquiet⟩
  cases hreply : reply (.broadcast tx) with
  | ok => exact ⟨hleaves, hsame⟩
  | error =>
    refine safe_guard ⟨hleaves, hsame⟩ fun _ => ?_
    refine safe_bind.mpr (safe_sync hw1 (by trivial) rfl fun now reply _ => ?_)
    refine (safe_put hw1 fun _ => ?_).bind ?_
    · exact .rewrite hw1.book (hrecord.quiet hquiet).row ⟨rfl, rfl, rfl, rfl, rfl⟩
        (fun _ => hrecord.pending) fun _ => .inr (.inl hrecord.pending)
    · rintro r w' ⟨hinv', hsince, hrow⟩
      have hleaves' : Leaves S strict record.transferId w w' :=
        ⟨hinv', (hquiet.since _).trans hsince⟩
      cases r with
      | error => exact ⟨hleaves', nofun⟩
      | ok =>
        refine ⟨hleaves', fun out hout => ?_⟩
        cases hout
        exact ⟨rfl, hrow rfl, hrecord.pending⟩

/-- **Submitting** for a transfer whose row the caller knows. -/
theorem safe_submit
    (hagain : ∀ {record w}, Inv S strict w → Holds w record → record.transferId = t.transferId →
      NonceSafe S strict (again record)
        (fun _ w' => Leaves S strict t.transferId w w') w) (hw : Inv S strict w)
    (hknows : Knows w t.transferId existing) (hready : Ready w t.transferId existing)
    (dst : DstChain) (sigs : List Sig) :
    NonceSafe S strict (submit S again t (S.dstOf t.transferId) dst sigs existing)
      (fun _ w' => Leaves S strict t.transferId w w') w := by
  have hdone : ∀ {w'}, Quiet w w' → Inv S strict w' → Leaves S strict t.transferId w w' :=
    fun hquiet hinv => ⟨hinv, hquiet.since _⟩
  unfold submit
  refine safe_bind.mpr (safe_lift.mpr ?_)
  cases sigs.mapM fun s => S.toSolidityTuple s.signature with
  | error => exact hdone (Quiet.refl w) hw
  | ok _ =>
  refine safe_bind.mpr (safe_tryCatch.mpr (safe_bind.mpr (safe_ask (by trivial) hw ?_)))
  intro w1 now reply hquiet _ hw1 hcareful
  cases hreply : reply (.staticCall (S.dstOf t.transferId) t.transferId (sigs.map (·.signer))) with
  | error reason =>
    -- the condition says that nothing of the transfer is left in the mempool
    have hsettled : w1.Settled t.transferId := by
      simpa [Careful, careful, hreply, Except.toOption] using hcareful
    refine safe_bind.mpr (safe_sync hw1 (by trivial) rfl fun now reply _ => ?_)
    refine (safe_put hw1 fun _ => ?_).mono ?_
    · exact writable_failedRow hw1.book rfl (hknows.quiet hquiet) hsettled reason _
    · rintro r w' ⟨hinv', hsince, -⟩
      exact ⟨hinv', (hquiet.since _).trans hsince⟩
  | ok =>
    refine (safe_quiet uses_readFees hw1).bind ?_
    rintro (reason | fees) w1 ⟨hq2, hw2⟩
    · exact hdone (hquiet.trans hq2) hw2
    refine safe_guard (hdone (hquiet.trans hq2) hw2) fun _ => ?_
    refine (safe_quiet uses_readGasLimit hw2).bind ?_
    rintro (reason | gasLimit) w3 ⟨hq3, hw3⟩
    · exact hdone ((hquiet.trans hq2).trans hq3) hw3
    refine (safe_quiet (.one (by trivial)) hw3).bind ?_
    rintro (reason | _) w4 ⟨hq4, hw4⟩
    · exact hdone (((hquiet.trans hq2).trans hq3).trans hq4) hw4
    have hq : Quiet w w4 := ((hquiet.trans hq2).trans hq3).trans hq4
    refine (safe_chooseNonce hw4 (hknows.quiet hq) (hready.quiet hq)).bind ?_
    rintro (reason | nonce) w5 ⟨hq5, hw5, hnonce⟩
    · exact hdone (hq.trans hq5) hw5
    have hq' := hq.trans hq5
    refine (safe_signAttempt (hknows.quiet hq') (hnonce nonce rfl) _ _ _ _).bind ?_
    rintro (reason | ⟨record, tx⟩) w6 ⟨hleaves, hout⟩
    · exact hleaves.after (hq'.since _)
    obtain ⟨hid, hholds⟩ := hout _ rfl
    refine (safe_send hleaves.1 hholds tx).bind ?_
    rintro (reason | record') w7 ⟨hleaves', hout'⟩
    · have hid' : record.transferId = t.transferId := hid
      rw [hid'] at hleaves'
      exact (hleaves'.after hleaves.2).after (hq'.since _)
    · obtain ⟨hid', hholds'⟩ := hout' _ rfl
      have hid'' : record.transferId = t.transferId := hid
      rw [hid''] at hleaves' hid'
      refine (hagain hleaves'.1 hholds' hid').mono fun _ w8 h8 => ?_
      exact ((h8.after hleaves'.2).after hleaves.2).after (hq'.since _)

/-! ### Polling -/

lemma safe_findReceipt {chainId : Nat} {attempts : List SubmissionAttempt} (hw : Inv S strict w)
    (hattempts : ∀ x ∈ attempts, AttemptOf S transferId x ∧ x.raw ∈ w.attempts) :
    NonceSafe S strict (findReceipt chainId attempts) (fun r w' => Quiet w w' ∧ Inv S strict w' ∧
        ∀ found, r = .ok (some found) → w'.Settled transferId) w := by
  induction attempts generalizing w with
  | nil => exact ⟨Quiet.refl w, hw, nofun⟩
  | cons x rest ih =>
    refine safe_bind.mpr (safe_attempt.mpr (safe_ask (by trivial) hw ?_))
    intro w1 now reply hquiet _ hw1 hcareful
    have hrest : NonceSafe S strict (findReceipt chainId rest)
        (fun r w' => Quiet w w' ∧ Inv S strict w' ∧
          ∀ found, r = .ok (some found) → w'.Settled transferId) w1 := by
      refine (ih hw1 fun y hy => ?_).mono fun r w' hr => ⟨hquiet.trans hr.1, hr.2⟩
      rw [hquiet.attempts]
      exact hattempts y (mem_cons_of_mem x hy)
    cases hreply : reply (.receipt chainId x.txHash) with
    | error => exact hrest
    | ok answer =>
      cases answer with
      | none => exact hrest
      | some =>
        refine ⟨hquiet, hw1, fun _ _ => ?_⟩
        obtain ⟨hof, hmem⟩ := hattempts x mem_cons_self
        have hsettled : ∀ tx ∈ w1.attempts, S.hashOf tx = x.txHash → w1.Settled tx.transferId := by
          simpa [Careful, careful, hreply, Except.toOption] using hcareful
        have := hsettled x.raw (hquiet.attempts ▸ hmem) hof.txHash.symm
        rwa [hof.transferId] at this

lemma Holds.ready (hw : Book S strict w) (h : Holds w sub) : Ready w sub.transferId (some sub) := by
  intro tx htx hid hnot
  have hrow : w.store.getSubmission tx.transferId = some sub := hid ▸ h.row
  obtain ⟨hnonce, -⟩ := hw.live htx hnot hrow
  simp [reusedNonce, h.pending, hnonce]

lemma writable_abandoned (hw : Book S strict w) (h : Holds w sub)
    (hdst : S.chains sub.dstChainId = some dst)
    (hlength : dst.gas.maxAttempts ≤ sub.attempts.length) (lastError : Option String)
    (updatedAt : Nat) (hgive : strict = true → w.Settled sub.transferId) :
    Writable S strict w { sub with status := .abandoned, lastError, updatedAt } := by
  refine .rewrite hw h.row ⟨rfl, rfl, rfl, rfl, rfl⟩ nofun fun _ => ?_
  cases strict with
  | true => exact .inl (hgive rfl)
  | false =>
    refine .inr (.inr ⟨rfl, rfl, fun dst' hdst' => ?_⟩)
    cases hdst.symm.trans hdst'
    exact hlength

lemma safe_rebuild
    (hagain : ∀ {record w}, Inv S strict w → Holds w record → record.transferId = sub.transferId →
      NonceSafe S strict (again record)
        (fun _ => Leaves S strict sub.transferId w) w)
    (hw : Inv S strict w) (hsub : Holds w sub)
    (hdst : S.chains sub.dstChainId = some dst) (last : SubmissionAttempt) :
    NonceSafe S strict (rebuild S again dst sub last)
      (fun _ => Leaves S strict sub.transferId w) w := by
  have hdone : ∀ {w'}, Quiet w w' → Inv S strict w' → Leaves S strict sub.transferId w w' :=
    fun hquiet hinv => ⟨hinv, hquiet.since _⟩
  unfold rebuild
  refine (safe_quiet (.one (by trivial)) hw).bind ?_
  rintro (reason | now) w1 ⟨hq1, hw1⟩
  · exact hdone hq1 hw1
  refine safe_bind.mpr (safe_sync hw1 (by trivial) rfl fun _ reply _ => ?_)
  cases hreply : reply (.getTransfer sub.transferId) with
  | error => exact hdone hq1 hw1
  | ok _ =>
  simp only [World.perform, next_ok]
  split
  · exact hdone hq1 hw1
  · next transfer htransfer =>
    have hid : transfer.transferId = sub.transferId := (hw1.transfers htransfer).1
    have hchain : sub.dstChainId = S.dstOf transfer.transferId := by
      rw [hid]
      exact (hw.book.row hsub.row).2.dstChainId
    refine (safe_quiet (uses_usableSignatures _ _) hw1).bind ?_
    rintro (reason | current) w1 ⟨hq2, hw2⟩
    · exact hdone (hq1.trans hq2) hw2
    refine safe_guard (hdone (hq1.trans hq2) hw2) fun _ => ?_
    refine (safe_quiet uses_refresh hw2).bind ?_
    rintro (reason | usable) w3 ⟨hq3, hw3⟩
    · exact hdone ((hq1.trans hq2).trans hq3) hw3
    have hq : Quiet w w3 := (hq1.trans hq2).trans hq3
    have hholds := hsub.quiet hq
    refine safe_guard (hdone hq hw3) fun _ => ?_
    refine safe_ite.mpr ⟨fun hlength => ?_, fun _ => ?_⟩
    · refine safe_bind.mpr (safe_sync hw3 (by trivial) rfl fun _ _ _ => ?_)
      refine (safe_put hw3 fun hgive => ?_).mono ?_
      · exact writable_abandoned hw3.book hholds hdst hlength _ _ fun hstrict => hgive hstrict rfl
      · rintro r w' ⟨hinv', hsince, -⟩
        exact ⟨hinv', (hq.since _).trans hsince⟩
    · rw [hchain]
      rw [← hid] at hagain ⊢
      refine (safe_submit hagain hw3 ?_ ?_ dst _).mono fun _ w' h' => h'.after (hq.since _)
      · rw [hid]
        exact hholds.row
      · rw [hid]
        exact hholds.ready hw3.book

/-- A poll changes no row but its own. -/
theorem safe_pollSubmission (fuel : Nat) (hw : Inv S strict w) (hsub : Holds w sub) :
    NonceSafe S strict (pollSubmission S fuel sub)
      (fun _ w' => Leaves S strict sub.transferId w w') w := by
  induction fuel generalizing w sub with
  | zero => exact ⟨hw, (Quiet.refl w).since _⟩
  | succ fuel ih =>
    have hdone : ∀ {w'}, Quiet w w' → Inv S strict w' → Leaves S strict sub.transferId w w' :=
      fun hquiet hinv => ⟨hinv, hquiet.since _⟩
    unfold pollSubmission
    cases hdst : S.chains sub.dstChainId with
    | none => exact hdone (Quiet.refl w) hw
    | some dst =>
    refine (safe_quiet (.one (by trivial)) hw).bind ?_
    rintro (reason | healthy) w1 ⟨hq1, hw1⟩
    · exact hdone hq1 hw1
    refine safe_ite.mpr ⟨fun _ => ?_, fun _ => hdone hq1 hw1⟩
    have hholds1 := hsub.quiet hq1
    refine (safe_findReceipt hw1 fun x hx =>
      ⟨hw1.book.attemptOf hholds1.row hx, hw1.book.mem_of_row hholds1.row hx⟩).bind ?_
    rintro (reason | found) w2 ⟨hq2, hw2, hsettled⟩
    · exact hdone (hq1.trans hq2) hw2
    have hq := hq1.trans hq2
    have hholds := hsub.quiet hq
    -- a receipt of either status ends the submission: nothing of it is left in the mempool
    have hend : ∀ {record : StoredSubmission}, w2.Settled sub.transferId →
        Rewrites sub record → record.status ≠ .pending →
        NonceSafe S strict (write (.putSubmission record))
          (fun _ w' => Leaves S strict sub.transferId w w') w2 := by
      intro record hsettled hrewrites hstatus
      refine (safe_put hw2 fun _ => ?_).mono ?_
      · exact .rewrite hw2.book hholds.row hrewrites (fun h => absurd h hstatus)
          fun _ => .inl hsettled
      · rintro r w' ⟨hinv', hsince, -⟩
        rw [hrewrites.transferId] at hsince
        exact ⟨hinv', (hq.since _).trans hsince⟩
    cases found with
    | none =>
      simp only [next_ok]
      split
      · exact hdone hq hw2
      · next last hlast =>
        refine (safe_rebuild (fun hinv hrecord hid => ?_) hw2 hholds hdst last).mono
          fun _ w' h' => h'.after (hq.since _)
        exact hid ▸ ih hinv hrecord
    | some receipt =>
      obtain ⟨txHash, succeeded⟩ := receipt
      cases succeeded with
      | true =>
        refine safe_bind.mpr (safe_sync hw2 (by trivial) rfl fun _ _ _ => ?_)
        refine (hend (hsettled _ rfl) (by constructor <;> rfl) (by simp)).bind ?_
        rintro (reason | _) w4 hleaves
        · exact hleaves
        · refine (safe_quiet (.one (by trivial)) hleaves.1).mono fun _ w5 hw5 => ?_
          exact ⟨hw5.2, hleaves.2.trans (hw5.1.since _)⟩
      | false =>
        refine safe_bind.mpr (safe_sync hw2 (by trivial) rfl fun _ _ _ => ?_)
        exact hend (hsettled _ rfl) (by constructor <;> rfl) (by simp)

/-! ### Jobs -/

/-- A transfer that `advance` does not leave alone has no attempt at another nonce. -/
lemma ready_of_not_leaves (hw : Book S strict w) (hdst : S.chains (S.dstOf transferId) = some dst)
    (hknows : Knows w transferId existing) {now : Nat} (hleaves : ¬ leaves dst now existing = true) :
    Ready w transferId existing := by
  intro tx htx hid hnot
  exfalso
  obtain ⟨sub, hsub, -⟩ := hw.mem_attempts.mp htx
  rw [hid] at hsub
  cases hknows.symm.trans hsub
  obtain ⟨hrowid, hrowOf⟩ := hw.row hsub
  have hchain : sub.dstChainId = S.dstOf transferId := hrowid ▸ hrowOf.dstChainId
  obtain ⟨-, hpending | ⟨-, habandoned, hlength⟩⟩ := hw.live htx hnot (hid ▸ hsub)
  · exact hleaves (by simp [leaves, hpending])
  · have := hlength dst (hchain ▸ hdst)
    exact hleaves (by simp [leaves, habandoned, this])

lemma safe_advance (hw : Inv S strict w) (ht : t.transfer.dstChainId = S.dstOf t.transferId) :
    NonceSafe S strict (advance S t) (fun _ => Inv S strict) w := by
  unfold advance
  simp only [ht]
  cases hdst : S.chains (S.dstOf t.transferId) with
  | none => exact hw
  | some dst =>
  refine (safe_quiet (.one (by trivial)) hw).bind ?_
  rintro (reason | healthy) w1 ⟨-, hw1⟩
  · exact hw1
  refine safe_ite.mpr ⟨fun _ => ?_, fun _ => hw1⟩
  refine safe_bind.mpr (safe_attempt.mpr ((safe_quiet (.one (by trivial)) hw1).mono ?_))
  rintro (reason | processed) w2 ⟨-, hw2⟩
  · exact hw2
  cases processed with
  | true =>
    refine (safe_quiet ?_ hw2).mono fun _ _ h => h.2
    exact .bind (.one trivial) fun _ => .one trivial
  | false =>
    refine (safe_quiet uses_held hw2).bind ?_
    rintro (reason | held) w3 ⟨-, hw3⟩
    · exact hw3
    refine safe_guard hw3 fun _ => ?_
    refine (safe_quiet (uses_collectSignatures _ _) hw3).bind ?_
    rintro (reason | _) w4 ⟨-, hw4⟩
    · exact hw4
    refine (safe_quiet (uses_usableSignatures _ _) hw4).bind ?_
    rintro (reason | usable) w5 ⟨-, hw5⟩
    · exact hw5
    refine safe_guard hw5 fun _ => ?_
    refine safe_bind.mpr (safe_sync hw5 (by trivial) rfl fun _ reply _ => ?_)
    cases hreply : reply (.getSubmission t.transferId) with
    | error => exact hw5
    | ok =>
      refine safe_bind.mpr (safe_sync hw5 (by trivial) rfl fun now _ _ => ?_)
      refine safe_guard hw5 fun hnot => ?_
      refine (safe_submit ?_ hw5 rfl (ready_of_not_leaves hw5.book hdst rfl hnot) dst _).mono
        fun _ _ h => h.1
      intro record w hinv hrecord hid
      exact hid ▸ safe_pollSubmission _ hinv hrecord

lemma keyed_submissions (hw : Book S strict w) :
    w.store.submissions.Keyed StoredSubmission.transferId :=
  fun _ _ hsub => (hw.row hsub).1

lemma safe_tick (hw : Inv S strict w) : NonceSafe S strict (tick S) (fun _ => Inv S strict) w := by
  unfold tick
  refine safe_bind.mpr (safe_sync hw (by trivial) rfl fun _ reply _ => ?_)
  cases hreply : reply (.listSubmissions .pending) with
  | error => exact hw
  | ok _ =>
  refine safe_bind.mpr ?_
  -- what is left of the listing are rows as they are stored, of different transfers
  refine safe_each (P := fun rest w => Inv S strict w ∧ (∀ sub ∈ rest, Holds w sub) ∧
    rest.Pairwise fun a b => a.transferId ≠ b.transferId) ⟨hw, ?_, ?_⟩ ?_ ?_
  · intro sub hsub
    obtain ⟨⟨transferId, hget⟩, hpending⟩ := mem_listSubmissions.mp hsub
    exact ⟨(hw.book.row hget).1 ▸ hget, hpending⟩
  · exact pairwise_listSubmissions (keyed_submissions hw.book) .pending
  · rintro sub rest w ⟨hinv, hholds, hpairwise⟩
    rw [pairwise_cons] at hpairwise
    refine (safe_pollSubmission _ hinv (hholds sub mem_cons_self)).mono ?_
    rintro (reason | _) w' ⟨hinv', hsince⟩
    · exact hinv'
    · refine ⟨hinv', fun other hother => ?_, hpairwise.2⟩
      have hold := hholds other (mem_cons_of_mem sub hother)
      refine ⟨?_, hold.pending⟩
      rw [hsince _ (hpairwise.1 other hother).symm]
      exact hold.row
  · rintro w ⟨hinv, -, -⟩
    refine safe_bind.mpr (safe_sync hinv (by trivial) rfl fun _ reply _ => ?_)
    cases hreply : reply (.listTransfers { status := some [.confirmed, .signed], limit := some 200 })
      with
    | error _ => exact hinv
    | ok _ =>
      refine safe_each (P := fun rest w => Inv S strict w ∧
        ∀ t ∈ rest, t.transfer.dstChainId = S.dstOf t.transferId) ⟨hinv, fun t ht => ?_⟩ ?_
        fun w h => h.1
      · obtain ⟨transferId, hget⟩ := (listed_of_mem ht).row
        obtain ⟨rfl, hdst⟩ := hinv.transfers hget
        exact hdst
      · rintro t rest w ⟨hinv, hrows⟩
        have hrest : ∀ t ∈ rest, t.transfer.dstChainId = S.dstOf t.transferId :=
          fun t' ht' => hrows t' (mem_cons_of_mem t ht')
        refine safe_ite.mpr ⟨fun _ => ?_, fun _ => ⟨hinv, hrest⟩⟩
        refine (safe_advance hinv (hrows t mem_cons_self)).mono ?_
        rintro (reason | _) w' hinv'
        · exact hinv'
        · exact ⟨hinv', hrest⟩

lemma safe_onConfirmed (hw : Inv S strict w) (transferId : String) :
    NonceSafe S strict (onConfirmed S transferId) (fun _ => Inv S strict) w := by
  unfold onConfirmed
  refine safe_bind.mpr (safe_sync hw (by trivial) rfl fun _ reply _ => ?_)
  cases hreply : reply (.getTransfer transferId) with
  | error => exact hw
  | ok _ =>
    simp only [World.perform, next_ok]
    split
    · exact hw
    · next t hget =>
      refine safe_ite.mpr ⟨fun _ => ?_, fun _ => hw⟩
      obtain ⟨rfl, hdst⟩ := hw.transfers hget
      exact safe_advance hw hdst

lemma sound : Sound (runtime S) (discipline S strict) where
  toRelies := relies
  guar := fun hij => absurd rfl hij
  drift := fun hw h => ⟨(drift_inv hw h).1, fun _ => (drift_inv hw h).2⟩
  reboot := fun hw => hw
  task := by
    intro _ j w hw
    cases j with
    | tick => exact (safe_tick hw).mono fun _ _ _ => trivial
    | confirmed transferId => exact (safe_onConfirmed hw transferId).mono fun _ _ _ => trivial

lemma Fresh.inv (h : Fresh w) : Inv S strict w := by
  obtain ⟨hstore, hmined, hattempts, hsigned⟩ := h
  have hsubmission : ∀ transferId, w.store.getSubmission transferId = none := by
    rcases hstore with h | h <;> rw [h] <;> exact fun _ => rfl
  have htransfer : ∀ transferId, w.store.getTransfer transferId = none := by
    rcases hstore with h | h <;> rw [h] <;> exact fun _ => rfl
  constructor
  · constructor
    · intro transferId sub hsub
      cases (hsubmission transferId).symm.trans hsub
    · simp [hattempts, hsubmission]
    · simp [hattempts]
    · simp [hattempts]
  · intro transferId t ht
    cases (htransfer transferId).symm.trans ht
  · simp [hsigned]
  · simp [hmined]
  · simp [hmined]

lemma reach_inv {start : World} (hstart : Fresh start)
    {c : Config Unit Answer (World × Option Store)}
    (hc : (restarting S).Reach (Losing Durable (Careful S strict)) (start, none) c) :
    Inv S strict c.world.1 := by
  have hsound : Sound (restarting S) ((discipline S strict).lossy Durable) :=
    sound.lossy rfl nofun
  refine (hsound.inv ?_ hc).1
  exact ⟨hstart.inv, rfl⟩

/-! ### Mutual exclusion -/

/-- **Mutual exclusion.** In every run in which restarts lose no write, a simulation fails for a
transfer, and a receipt is found for one of its attempts, only when the nonces of all its attempts
are consumed, and in which the nonce of a row in sqlite never has to change: whenever an attempt
is signed at another nonce than an earlier attempt for the same transfer, that nonce was
consumed; the attempts that can still be mined are at one nonce; and a chain mines at most
one transaction at a nonce. -/
theorem attempts_exclusive {start : World} (hstart : Fresh start)
    {c : Config Unit Answer (World × Option Store)}
    (hc : (restarting S).Reach (Losing Durable (Careful S false)) (start, none) c) :
    (∀ s ∈ c.world.1.signed, s.Exclusive) ∧
      (∀ a ∈ c.world.1.attempts, ∀ b ∈ c.world.1.attempts, a.transferId = b.transferId →
        ¬ c.world.1.Spent a → ¬ c.world.1.Spent b → a.chainId = b.chainId ∧ a.nonce = b.nonce) ∧
      c.world.1.mined.Pairwise fun a b => a.chainId = b.chainId → a.nonce ≠ b.nonce := by
  have hinv := reach_inv hstart hc
  refine ⟨hinv.signed, fun a ha b hb hid hspenta hspentb => ?_, hinv.mined_once⟩
  obtain ⟨sub, hsub, hmema⟩ := hinv.book.mem_attempts.mp ha
  obtain ⟨sub', hsub', hmemb⟩ := hinv.book.mem_attempts.mp hb
  rw [hid] at hsub
  cases hsub.symm.trans hsub'
  -- both are in the row of the transfer, which holds the nonce of either
  obtain ⟨x, hx, rfl⟩ := mem_map.mp hmema
  obtain ⟨y, hy, rfl⟩ := mem_map.mp hmemb
  obtain ⟨-, hrowOf⟩ := hinv.book.row hsub
  refine ⟨?_, ?_⟩
  · rw [(hrowOf.attempts x hx).chainId, (hrowOf.attempts y hy).chainId]
  · have hnoncea := (hinv.book.live ha hspenta (hid ▸ hsub)).1
    have hnonceb := (hinv.book.live hb hspentb hsub).1
    omega

/-! ### Runs -/

/-- Chain 10 is the only destination, with a quorum of no signatures. -/
def sampleSetup (maxAttempts : Nat) : Setup where
  host := plainHost plainEthers
  chains chainId :=
    if chainId = 10 then
      some { bridgeAddress := "0xb"
             gas := { maxFeePerGasGwei := 1000, priorityFeeGwei := 1, baseFeeMultiplier := 2
                      gasLimitPercent := 120, gasLimitCap := 500_000, escalationPct := 20
                      maxAttempts, receiptTimeoutMs := 90_000, txType := .eip1559 } }
    else none
  skipWhenPaused := false
  http := false
  sharedDir := false
  verifyPayload _ _ _ := .error "unverified"
  toSolidityTuple _ := .ok ()
  addressValue _ := 0
  hashOf tx := if tx.nonce = 5 then "0x5" else "0x6"
  dstOf _ := 10

/-- A node whose pending count is `count`, with nothing to report. -/
def calm (count : Nat) : (e : Effect) → Except String (Answer e)
  | .now => .ok 0
  | .healthy _ => .ok true
  | .processed _ _ => .ok false
  | .paused _ => .ok false
  | .httpCollect _ => .ok []
  | .dirCollect _ => .ok []
  | .validatorSet _ => .ok (0, [])
  | .staticCall _ _ _ => .ok ()
  | .latestBaseFee _ => .ok none
  | .maxPriorityFee _ => .ok 0
  | .estimateGas _ _ _ => .ok 100_000
  | .populate _ _ _ => .ok ()
  | .transactionCount _ => .ok count
  | .signTransaction _ => .ok ()
  | .broadcast _ => .ok ()
  | .receipt _ _ => .ok none
  | .getTransfer _ => .ok none
  | .listTransfers _ => .ok []
  | .getSignatures _ => .ok []
  | .getSubmission _ => .ok none
  | .listSubmissions _ => .ok []
  | .write _ => .ok ()

/-- The simulation fails, for example because the request timed out. -/
def timingOut (count : Nat) : (e : Effect) → Except String (Answer e)
  | .staticCall _ _ _ => .error "timeout"
  | e => calm count e

/-- Every attempt that is asked for was mined with this status. -/
def receipted (status : Bool) (count : Nat) : (e : Effect) → Except String (Answer e)
  | .receipt _ _ => .ok (some status)
  | e => calm count e

def sampleTransfer (transferId : String) : StoredTransfer :=
  { transferId
    transfer := { srcChainId := 1, dstChainId := 10, nonce := 0, srcToken := "0xa"
                  dstToken := "0xb", sender := "0xc", recipient := "0xd", amount := 7 }
    fee := 0, srcBlockNumber := 1, srcBlockHash := "0x", srcTxHash := "0x", srcLogIndex := 0
    status := .confirmed, reason := none, firstSeenAt := 0, confirmedAt := some 0
    executedAt := none, executedTxHash := none, updatedAt := 0 }

/-- A new journal, and an account that has spent five nonces everywhere. -/
def sampleStart : World := { store := .journal {}, accountNonce := fun _ => 5 }

lemma fresh_sampleStart : Fresh sampleStart := ⟨.inr rfl, rfl, rfl, rfl⟩

def answers (n now : Nat) (reply : (e : Effect) → Except String (Answer e)) :
    List (Move Unit Job Choice) :=
  List.replicate n (.go () (.answer now reply))

/-- The watcher reports a transfer, and the submitter is told. -/
def reports (transferId : String) : List (Move Unit Job Choice) :=
  [.drift (.watch 0 (.putTransfer (sampleTransfer transferId))), .start () (.confirmed transferId)]

/-- The first attempt for the transfer `0x1`, at nonce 5. -/
def firstAttempt : List (Move Unit Job Choice) := reports "0x1" ++ answers 24 0 (calm 5)

/-- No receipt comes. The escalation times out in the simulation, which marks the row as
failed, and a minute later the transfer gets a fresh nonce. -/
def failedSimulation : List (Move Unit Job Choice) :=
  firstAttempt ++ [.start () .tick] ++ answers 17 100_000 (timingOut 5) ++
    [.start () .tick] ++ answers 26 200_000 (calm 6)

/-- A failed simulation lets a transfer be signed at a second nonce. -/
theorem signed_beside_unspent : ∃ c,
    Fresh sampleStart ∧ (runtime (sampleSetup 3)).Reach Free sampleStart c ∧
      (∃ s ∈ c.world.signed, ¬ s.Exclusive) ∧
      ∃ a ∈ c.world.attempts, ∃ b ∈ c.world.attempts, a.transferId = b.transferId ∧
        a.nonce ≠ b.nonce ∧ ¬ c.world.Spent a ∧ ¬ c.world.Spent b := by
  let c := ((runtime (sampleSetup 3)).run Free sampleStart failedSimulation).get (by decide +kernel)
  refine ⟨c, fresh_sampleStart, reach_of_run _ (some_get _).symm, ?_, ?_⟩
  · decide +kernel
  · decide +kernel

/-- The first attempt is mined and reverts, which a poll finds out; the transfer then gets a
fresh nonce. -/
def revertedAttempt : List (Move Unit Job Choice) :=
  firstAttempt ++
    [.drift (.mine { chainId := 10, nonce := 5, transferId := "0x1", gasLimit := 120_000
                     maxFeePerGas := 3_000_000_000, maxPriorityFeePerGas := 1_000_000_000
                     signers := [] }), .start () .tick] ++
    answers 12 1_000 (receipted false 6) ++ [.start () .tick] ++ answers 26 100_000 (calm 6)

/-- A reverted attempt at nonce 5 is followed by one at nonce 6. -/
theorem attempts_exclusive_reverted : ∃ c : Config Unit Answer World,
    c.world.signed.map (·.tx.nonce) = [5, 6] ∧ (∀ s ∈ c.world.signed, s.Exclusive) ∧
      (∀ a ∈ c.world.attempts, ∀ b ∈ c.world.attempts, a.transferId = b.transferId →
        ¬ c.world.Spent a → ¬ c.world.Spent b → a.chainId = b.chainId ∧ a.nonce = b.nonce) ∧
      c.world.mined.Pairwise fun a b => a.chainId = b.chainId → a.nonce ≠ b.nonce := by
  have hrun : ∃ c, (runtime (sampleSetup 3)).Reach (Careful (sampleSetup 3) false) sampleStart c ∧
      c.world.signed.map (·.tx.nonce) = [5, 6] :=
    exists_reach _ revertedAttempt (by decide +kernel)
  obtain ⟨c, hc, hnonces⟩ := hrun
  exact ⟨c, hnonces, attempts_exclusive fresh_sampleStart (hc.lossy rfl)⟩

/-- **No collision.** If moreover a transfer is abandoned only when the nonces of its attempts
are consumed, and no pending count that was answered is behind the nonces that are consumed,
attempts for different transfers to one chain are at different nonces. A pending count may leave
out any of what is in the mempool. -/
theorem no_nonce_collision {start : World} (hstart : Fresh start)
    {c : Config Unit Answer (World × Option Store)}
    (hc : (restarting S).Reach (Losing Durable (Careful S true)) (start, none) c)
    (hlagged : c.world.1.lagged = false) {a b : RawTransaction} (ha : a ∈ c.world.1.attempts)
    (hb : b ∈ c.world.1.attempts) (hid : a.transferId ≠ b.transferId)
    (hchain : a.chainId = b.chainId) : a.nonce ≠ b.nonce := fun hnonce =>
  hid ((reach_inv hstart hc).book.exclusive rfl ha hb hchain hnonce (.inr hlagged))

/-- With one attempt a transfer, the transfer `0x1` is abandoned when no receipt comes, and
its attempt stays in the mempool. The pending count does not show it. -/
def abandonedTransfer : List (Move Unit Job Choice) :=
  firstAttempt ++ [.start () .tick] ++ answers 16 100_000 (calm 5) ++
    reports "0x2" ++ answers 24 100_000 (calm 5)

/-- Two transfers are at nonce 5, and either can be mined. -/
theorem transfers_share_nonce : ∃ c,
    Fresh sampleStart ∧ (runtime (sampleSetup 1)).Reach Free sampleStart c ∧ c.world.mined = [] ∧
      ∃ a ∈ c.world.attempts, ∃ b ∈ c.world.attempts, a.transferId ≠ b.transferId ∧
        a.chainId = b.chainId ∧ a.nonce = b.nonce ∧ ¬ c.world.Spent a := by
  let c := ((runtime (sampleSetup 1)).run Free sampleStart abandonedTransfer).get
    (by decide +kernel)
  refine ⟨c, fresh_sampleStart, reach_of_run _ (some_get _).symm, ?_, ?_⟩
  · decide +kernel
  · decide +kernel

/-- While the first attempt is in the mempool, the pending count does not show it. -/
theorem no_nonce_collision_unshown : ∃ c : Config Unit Answer World,
    ∃ a ∈ c.world.attempts, ∃ b ∈ c.world.attempts, a.chainId = b.chainId ∧ b.nonce = 6 ∧
      ¬ c.world.Spent a ∧ a.nonce ≠ b.nonce := by
  have hrun : ∃ c, (runtime (sampleSetup 3)).Reach (Careful (sampleSetup 3) true) sampleStart c ∧
      c.world.lagged = false ∧ ∃ a ∈ c.world.attempts, ∃ b ∈ c.world.attempts,
        a.transferId ≠ b.transferId ∧ a.chainId = b.chainId ∧ b.nonce = 6 ∧ ¬ c.world.Spent a :=
    exists_reach _ (firstAttempt ++ reports "0x2" ++ answers 24 1_000 (calm 5)) (by decide +kernel)
  obtain ⟨c, hc, hlagged, a, ha, b, hb, hid, hchain, hnonce, hspent⟩ := hrun
  refine ⟨c, a, ha, b, hb, hchain, hnonce, hspent, ?_⟩
  exact no_nonce_collision fresh_sampleStart (hc.lossy rfl) hlagged ha hb hid hchain

end Submitter

end Ferminux.Relayer
